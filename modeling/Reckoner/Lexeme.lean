import Reckoner.Token

/-!
Contract: lexemes, the pieces into which the text of a script is cut.

At each place the longest piece of one of five shapes is taken: a numeral, a word, the equals sign,
a line break, or a run of blanks.  The first character decides the shape.

Owns: the shapes, the first lexeme of a text, the cut of a whole text, and the laws that a lexeme is
not empty and that no character is lost.

Does not own: lines, and the treatment of text that starts with no lexeme.
-/

namespace Reckoner

inductive Lexeme where
  /-- Digits after an optional minus sign; `fraction` holds the digits after a point, and is empty
  when there is no point. -/
  | numeral (negative : Bool) (whole fraction : List Char)
  | word (letters : List Char)
  | equals
  | newline
  | blanks (spaces : List Char)
deriving DecidableEq

namespace Lexeme

def startsWord (c : Char) : Bool :=
  c.isAlpha || c == '_'

def continuesWord (c : Char) : Bool :=
  c.isAlphanum || c == '_'

/-- Blanks within a line: space, tab, carriage return and form feed. -/
def isBlank (c : Char) : Bool :=
  c == ' ' || c == '\t' || c == '\r' || c == '\x0c'

def text : Lexeme → List Char
  | .numeral negative whole fraction =>
      (if negative then ['-'] else []) ++ whole ++
        (if fraction.isEmpty then [] else '.' :: fraction)
  | .word letters => letters
  | .equals => ['=']
  | .newline => ['\n']
  | .blanks spaces => spaces

/-- The fraction at the start of a text and what follows it.  A point counts only when a digit
stands behind it. -/
def cutFraction : List Char → List Char × List Char
  | '.' :: digit :: rest =>
      if digit.isDigit then (digit :: rest.takeWhile Char.isDigit, rest.dropWhile Char.isDigit)
      else ([], '.' :: digit :: rest)
  | text => ([], text)

/-- The numeral that starts with `digit`, and what follows it. -/
def cutNumeral (negative : Bool) (digit : Char) (rest : List Char) : Lexeme × List Char :=
  let (fraction, following) := cutFraction (rest.dropWhile Char.isDigit)
  (.numeral negative (digit :: rest.takeWhile Char.isDigit) fraction, following)

/-- The first lexeme of a text and what follows it, if the text starts with one. -/
def next? : List Char → Option (Lexeme × List Char)
  | [] => none
  | '=' :: rest => some (.equals, rest)
  | '\n' :: rest => some (.newline, rest)
  | '-' :: digit :: rest => if digit.isDigit then some (cutNumeral true digit rest) else none
  | c :: rest =>
      if c.isDigit then some (cutNumeral false c rest)
      else if startsWord c then
        some (.word (c :: rest.takeWhile continuesWord), rest.dropWhile continuesWord)
      else if isBlank c then
        some (.blanks (c :: rest.takeWhile isBlank), rest.dropWhile isBlank)
      else none

/-- A fraction and what follows it make up the text again. -/
theorem cutFraction_text (text : List Char) :
    (if (cutFraction text).1.isEmpty then [] else '.' :: (cutFraction text).1) ++
      (cutFraction text).2 = text := by
  fun_cases cutFraction text <;> simp_all [List.takeWhile_append_dropWhile]

/-- A numeral and what follows it make up the text again. -/
theorem cutNumeral_text (negative : Bool) (digit : Char) (rest : List Char) :
    (cutNumeral negative digit rest).1.text ++ (cutNumeral negative digit rest).2 =
      (if negative then ['-'] else []) ++ digit :: rest := by
  have whole : rest.takeWhile Char.isDigit ++ rest.dropWhile Char.isDigit = rest :=
    List.takeWhile_append_dropWhile
  have fraction := cutFraction_text (rest.dropWhile Char.isDigit)
  simp only [cutNumeral, text, List.append_assoc, List.cons_append]
  rw [fraction, whole]

/-- No character is lost: the first lexeme and what follows it make up the text. -/
theorem text_append_of_next?
    {source rest : List Char}
    {lexeme : Lexeme}
    (cut : next? source = some (lexeme, rest)) :
    lexeme.text ++ rest = source := by
  unfold next? at cut
  split at cut
  · simp at cut
  · obtain ⟨rfl, rfl⟩ := by simpa using cut
    rfl
  · obtain ⟨rfl, rfl⟩ := by simpa using cut
    rfl
  · rename_i digit following
    split at cut
    · have parts := cutNumeral_text true digit following
      rw [Option.some.inj cut] at parts
      simpa using parts
    · simp at cut
  · rename_i c following _ _ _
    split at cut
    · have parts := cutNumeral_text false c following
      rw [Option.some.inj cut] at parts
      simpa using parts
    · split at cut
      · obtain ⟨rfl, rfl⟩ := by simpa using cut
        simp [text, List.takeWhile_append_dropWhile]
      · split at cut
        · obtain ⟨rfl, rfl⟩ := by simpa using cut
          simp [text, List.takeWhile_append_dropWhile]
        · simp at cut

/-- A lexeme that was cut off is not empty. -/
theorem text_ne_nil_of_next?
    {source rest : List Char}
    {lexeme : Lexeme}
    (cut : next? source = some (lexeme, rest)) :
    lexeme.text ≠ [] := by
  unfold next? at cut
  split at cut
  · simp at cut
  · obtain ⟨rfl, rfl⟩ := by simpa using cut
    simp [text]
  · obtain ⟨rfl, rfl⟩ := by simpa using cut
    simp [text]
  · split at cut
    · rw [← (Prod.mk.inj (Option.some.inj cut)).1]
      simp [text]
    · simp at cut
  · split at cut
    · rw [← (Prod.mk.inj (Option.some.inj cut)).1]
      simp [text]
    · split at cut
      · obtain ⟨rfl, rfl⟩ := by simpa using cut
        simp [text]
      · split at cut
        · obtain ⟨rfl, rfl⟩ := by simpa using cut
          simp [text]
        · simp at cut

/-- What follows the first lexeme is shorter than the text. -/
theorem length_lt_of_next?
    {source rest : List Char}
    {lexeme : Lexeme}
    (cut : next? source = some (lexeme, rest)) :
    rest.length < source.length := by
  have parts := text_append_of_next? cut
  have nonempty := List.length_pos_iff.mpr (text_ne_nil_of_next? cut)
  rw [← parts, List.length_append]
  omega

/-- Cuts lexemes off a text as long as it starts with one; the second part is what is left. -/
def cut (source : List Char) : List Lexeme × List Char :=
  match _ : next? source with
  | none => ([], source)
  | some (lexeme, rest) =>
      let (lexemes, remainder) := cut rest
      (lexeme :: lexemes, remainder)
termination_by source.length
decreasing_by exact length_lt_of_next? (by assumption)

end Lexeme

end Reckoner
