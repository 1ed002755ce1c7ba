import Mathlib.Computability.Language
import Mathlib.Data.List.TakeWhile
import Reckoner.Lexeme

/-!
Contract: the patterns of lexemes as regular languages, and that the first lexeme of a text is its
longest match.

Owns: the five patterns, the shape of a lexeme, well-formed lexemes, and two facts from which the
longest match follows.  A lexeme that is cut off matches the pattern of its shape, and it reaches at
least as far as any match at the start of the text.

Does not own: the cut of a whole text.
-/

namespace Reckoner

open Computability

namespace Pattern

/-! ### Patterns -/

def within (low high c : Char) : Prop :=
  low ≤ c ∧ c ≤ high

def digit (c : Char) : Prop :=
  within '0' '9' c

def letter (c : Char) : Prop :=
  within 'a' 'z' c ∨ within 'A' 'Z' c ∨ c = '_'

def blank (c : Char) : Prop :=
  c = ' ' ∨ c = '\t' ∨ c = '\r' ∨ c = '\x0c'

/-- The texts of one character that belongs to a class. -/
def oneOf (members : Char → Prop) : Language Char :=
  {text | ∃ c, members c ∧ text = [c]}

/-- The texts of one or more characters that belong to a class. -/
def runOf (members : Char → Prop) : Language Char :=
  oneOf members * (oneOf members)∗

inductive Shape where
  | numeral
  | word
  | equals
  | newline
  | blanks
deriving DecidableEq

/-- The pattern of a shape.  A numeral is `-?[0-9]+(\.[0-9]+)?`, a word is `[a-zA-Z_][a-zA-Z0-9_]*`,
and a run of blanks is `[ \t\r\f]+`. -/
def ofShape : Shape → Language Char
  | .numeral => (1 + {['-']}) * runOf digit * (1 + {['.']} * runOf digit)
  | .word => oneOf letter * (oneOf fun c => letter c ∨ digit c)∗
  | .equals => {['=']}
  | .newline => {['\n']}
  | .blanks => runOf blank

private theorem mem_star_oneOf_iff (members : Char → Prop) (text : List Char) :
    text ∈ (oneOf members)∗ ↔ ∀ c ∈ text, members c := by
  rw [Language.mem_kstar]
  constructor
  · rintro ⟨parts, rfl, matching⟩ c member
    obtain ⟨part, partMember, inPart⟩ := List.mem_flatten.mp member
    obtain ⟨single, belongs, rfl⟩ := matching part partMember
    rw [List.mem_singleton] at inPart
    rwa [inPart]
  · intro belong
    refine ⟨text.map fun c => [c], by rw [← List.flatMap_def, List.flatMap_singleton'], ?_⟩
    intro part member
    obtain ⟨c, inText, rfl⟩ := List.mem_map.mp member
    exact ⟨c, belong c inText, rfl⟩

private theorem mem_oneOf_mul_iff
    (members : Char → Prop)
    (language : Language Char)
    (text : List Char) :
    text ∈ oneOf members * language ↔
      ∃ c rest, text = c :: rest ∧ members c ∧ rest ∈ language := by
  rw [Language.mem_mul]
  constructor
  · rintro ⟨front, ⟨c, belongs, rfl⟩, rest, inLanguage, rfl⟩
    exact ⟨c, rest, rfl, belongs, inLanguage⟩
  · rintro ⟨c, rest, rfl, belongs, inLanguage⟩
    exact ⟨[c], ⟨c, belongs, rfl⟩, rest, inLanguage, rfl⟩

theorem mem_runOf_iff (members : Char → Prop) (text : List Char) :
    text ∈ runOf members ↔ text ≠ [] ∧ ∀ c ∈ text, members c := by
  rw [runOf, mem_oneOf_mul_iff]
  constructor
  · rintro ⟨c, rest, rfl, belongs, others⟩
    rw [mem_star_oneOf_iff] at others
    exact ⟨by simp, List.forall_mem_cons.mpr ⟨belongs, others⟩⟩
  · rintro ⟨nonempty, belong⟩
    obtain ⟨c, rest, rfl⟩ := List.exists_cons_of_ne_nil nonempty
    obtain ⟨belongs, others⟩ := List.forall_mem_cons.mp belong
    exact ⟨c, rest, rfl, belongs, (mem_star_oneOf_iff _ _).mpr others⟩

/-! ### The classes of the scanner -/

theorem isDigit_iff (c : Char) : c.isDigit ↔ digit c := by
  simp [Char.isDigit, digit, within, Char.le_def]

private theorem startsWord_iff (c : Char) : Lexeme.startsWord c ↔ letter c := by
  have spelled : Lexeme.startsWord c =
      (decide ('A' ≤ c ∧ c ≤ 'Z') || ('a' ≤ c && c ≤ 'z') || c == '_') := rfl
  rw [spelled]
  simp only [letter, within, Bool.or_eq_true, Bool.and_eq_true, decide_eq_true_eq, beq_iff_eq]
  tauto

theorem continuesWord_iff (c : Char) : Lexeme.continuesWord c ↔ letter c ∨ digit c := by
  simp [Lexeme.continuesWord, Char.isAlphanum, ← isDigit_iff, ← startsWord_iff, Lexeme.startsWord]
  tauto

theorem isBlank_iff (c : Char) : Lexeme.isBlank c ↔ blank c := by
  simp [Lexeme.isBlank, blank, or_assoc]

end Pattern

/-! ### Well-formed lexemes -/

namespace Lexeme

open Pattern (Shape ofShape)

def shape : Lexeme → Shape
  | .numeral .. => .numeral
  | .word _ => .word
  | .equals => .equals
  | .newline => .newline
  | .blanks _ => .blanks

/-- The parts of a lexeme hold characters of the right classes. -/
def WellFormed : Lexeme → Prop
  | .numeral _ whole fraction =>
      whole ≠ [] ∧ (∀ c ∈ whole, c.isDigit) ∧ ∀ c ∈ fraction, c.isDigit
  | .word letters =>
      ∃ first rest, letters = first :: rest ∧ startsWord first ∧ ∀ c ∈ rest, continuesWord c
  | .equals | .newline => True
  | .blanks spaces => spaces ≠ [] ∧ ∀ c ∈ spaces, isBlank c

/-- Well-formed numerals match the pattern of numerals. -/
theorem numeral_text_mem
    (negative : Bool)
    {whole fraction : List Char}
    (wellFormed : (numeral negative whole fraction).WellFormed) :
    (numeral negative whole fraction).text ∈ ofShape .numeral := by
  obtain ⟨nonempty, wholeDigits, fractionDigits⟩ := wellFormed
  simp only [Pattern.isDigit_iff] at wholeDigits fractionDigits
  rw [ofShape, Language.mem_mul]
  refine ⟨(if negative then ['-'] else []) ++ whole, ?_, _, ?_, rfl⟩
  · rw [Language.mem_mul]
    refine ⟨_, ?_, whole, (Pattern.mem_runOf_iff _ _).mpr ⟨nonempty, wholeDigits⟩, rfl⟩
    cases negative with
    | false => exact .inl rfl
    | true => exact .inr rfl
  · cases fraction with
    | nil => exact .inl rfl
    | cons first rest =>
        refine .inr ⟨['.'], rfl, first :: rest, ?_, rfl⟩
        exact (Pattern.mem_runOf_iff _ _).mpr ⟨by simp, fractionDigits⟩

/-- A text that matches the pattern of numerals is a well-formed one. -/
theorem exists_numeral_of_mem
    {text : List Char}
    (mem : text ∈ ofShape .numeral) :
    ∃ negative whole fraction,
      (numeral negative whole fraction).WellFormed ∧
      (numeral negative whole fraction).text = text := by
  obtain ⟨front, frontMem, back, backMem, rfl⟩ := mem
  obtain ⟨sign, signMem, whole, wholeMem, rfl⟩ := frontMem
  obtain ⟨nonempty, wholeDigits⟩ := (Pattern.mem_runOf_iff _ _).mp wholeMem
  obtain ⟨negative, rfl⟩ : ∃ negative : Bool, sign = if negative then ['-'] else [] := by
    rcases signMem with rfl | rfl
    · exact ⟨false, rfl⟩
    · exact ⟨true, rfl⟩
  obtain ⟨fraction, fractionDigits, rfl⟩ : ∃ fraction : List Char,
      (∀ c ∈ fraction, Pattern.digit c) ∧
      back = if fraction.isEmpty then [] else '.' :: fraction := by
    rcases backMem with rfl | ⟨point, rfl, digits, digitsMem, rfl⟩
    · exact ⟨[], by simp, rfl⟩
    · obtain ⟨digitsNonempty, areDigits⟩ := (Pattern.mem_runOf_iff _ _).mp digitsMem
      refine ⟨digits, areDigits, ?_⟩
      rw [if_neg (by simpa using digitsNonempty)]
      rfl
  simp only [← Pattern.isDigit_iff] at wholeDigits fractionDigits
  exact ⟨negative, whole, fraction, ⟨nonempty, wholeDigits, fractionDigits⟩, rfl⟩

/-- The texts of a pattern are the texts of the well-formed lexemes of its shape. -/
theorem mem_ofShape_iff (shape : Shape) (text : List Char) :
    text ∈ ofShape shape ↔
      ∃ lexeme : Lexeme, lexeme.WellFormed ∧ lexeme.shape = shape ∧ lexeme.text = text := by
  constructor
  · intro mem
    cases shape with
    | numeral =>
        obtain ⟨negative, whole, fraction, wellFormed, same⟩ := exists_numeral_of_mem mem
        exact ⟨_, wellFormed, rfl, same⟩
    | word =>
        obtain ⟨first, rest, rfl, isLetter, others⟩ := (Pattern.mem_oneOf_mul_iff _ _ _).mp mem
        rw [Pattern.mem_star_oneOf_iff] at others
        rw [← Pattern.startsWord_iff] at isLetter
        simp only [← Pattern.continuesWord_iff] at others
        exact ⟨.word (first :: rest), ⟨first, rest, rfl, isLetter, others⟩, rfl, rfl⟩
    | equals => exact ⟨.equals, trivial, rfl, mem.symm⟩
    | newline => exact ⟨.newline, trivial, rfl, mem.symm⟩
    | blanks =>
        obtain ⟨nonempty, areBlank⟩ := (Pattern.mem_runOf_iff _ _).mp mem
        simp only [← Pattern.isBlank_iff] at areBlank
        exact ⟨.blanks text, ⟨nonempty, areBlank⟩, rfl, rfl⟩
  · rintro ⟨lexeme, wellFormed, rfl, rfl⟩
    cases lexeme with
    | numeral negative whole fraction => exact numeral_text_mem negative wellFormed
    | word letters =>
        obtain ⟨first, rest, rfl, isLetter, others⟩ := wellFormed
        simp only [Pattern.startsWord_iff, Pattern.continuesWord_iff] at isLetter others
        rw [shape, text, ofShape, Pattern.mem_oneOf_mul_iff]
        exact ⟨first, rest, rfl, isLetter, (Pattern.mem_star_oneOf_iff _ _).mpr others⟩
    | equals => rfl
    | newline => rfl
    | blanks spaces =>
        obtain ⟨nonempty, areBlank⟩ := wellFormed
        simp only [Pattern.isBlank_iff] at areBlank
        exact (Pattern.mem_runOf_iff _ _).mpr ⟨nonempty, areBlank⟩

/-! ### The first lexeme is the longest match -/

/-- A run that goes on as long as characters belong to a class has members of the class only. -/
theorem forall_mem_run
    {belongs : Char → Bool}
    {first : Char}
    (firstBelongs : belongs first)
    (rest : List Char) :
    ∀ c ∈ first :: rest.takeWhile belongs, belongs c := by
  rw [List.forall_mem_cons]
  exact ⟨firstBelongs, fun _ => List.mem_takeWhile_imp⟩

private theorem cutFraction_digits (text : List Char) : ∀ c ∈ (cutFraction text).1, c.isDigit := by
  fun_cases cutFraction text with
  | case1 first rest isDigit => exact forall_mem_run isDigit rest
  | case2 first rest noDigit => simp
  | case3 => simp

private theorem wellFormed_cutNumeral
    (negative : Bool)
    {first : Char}
    (isDigit : first.isDigit)
    (rest : List Char) :
    (cutNumeral negative first rest).1.WellFormed :=
  ⟨by simp, forall_mem_run isDigit rest, cutFraction_digits _⟩

theorem not_isDigit_of_startsWord {c : Char} (starts : startsWord c) : ¬ c.isDigit := by
  rw [Pattern.startsWord_iff] at starts
  rw [Pattern.isDigit_iff]
  simp only [Pattern.letter, Pattern.digit, Pattern.within, Char.le_def,
    UInt32.le_iff_toNat_le] at starts ⊢
  rintro ⟨low, high⟩
  rcases starts with ⟨above, -⟩ | ⟨above, -⟩ | rfl
  · have bound : 'a'.val.toNat ≤ '9'.val.toNat := le_trans above high
    revert bound
    decide
  · have bound : 'A'.val.toNat ≤ '9'.val.toNat := le_trans above high
    revert bound
    decide
  · revert high
    decide

theorem ne_of_startsWord
    {c other : Char}
    (starts : startsWord c)
    (noLetter : startsWord other = false) :
    c ≠ other := by
  rintro rfl
  rw [noLetter] at starts
  cases starts

theorem next?_digit {c : Char} (isDigit : c.isDigit) (rest : List Char) :
    next? (c :: rest) = some (cutNumeral false c rest) := by
  unfold next?
  split <;> simp_all

theorem next?_letter {c : Char} (starts : startsWord c) (rest : List Char) :
    next? (c :: rest) =
      some (.word (c :: rest.takeWhile continuesWord), rest.dropWhile continuesWord) := by
  have noDigit := not_isDigit_of_startsWord starts
  have noEquals : c ≠ '=' := ne_of_startsWord starts (by decide)
  have noNewline : c ≠ '\n' := ne_of_startsWord starts (by decide)
  have noMinus : c ≠ '-' := ne_of_startsWord starts (by decide)
  unfold next?
  split <;> simp_all

theorem next?_blank {c : Char} (isBlank : isBlank c) (rest : List Char) :
    next? (c :: rest) = some (.blanks (c :: rest.takeWhile Lexeme.isBlank),
      rest.dropWhile Lexeme.isBlank) := by
  rw [Pattern.isBlank_iff] at isBlank
  rcases isBlank with rfl | rfl | rfl | rfl <;> rfl

/-- The scanner only cuts off well-formed lexemes. -/
theorem wellFormed_of_next?
    {source rest : List Char}
    {lexeme : Lexeme}
    (cut : next? source = some (lexeme, rest)) :
    lexeme.WellFormed := by
  fun_cases next? source with
  | case1 => cases cut
  | case2 following =>
      cases cut
      trivial
  | case3 following =>
      cases cut
      trivial
  | case4 first following isDigit =>
      rw [next?, if_pos isDigit] at cut
      cases cut
      exact wellFormed_cutNumeral true isDigit following
  | case5 first following noDigit => simp [next?, noDigit] at cut
  | case6 c following noEquals noNewline noMinus isDigit =>
      rw [next?_digit isDigit] at cut
      cases cut
      exact wellFormed_cutNumeral false isDigit following
  | case7 c following noEquals noNewline noMinus noDigit starts =>
      rw [next?_letter starts] at cut
      cases cut
      exact ⟨c, _, rfl, starts, fun _ => List.mem_takeWhile_imp⟩
  | case8 c following noEquals noNewline noMinus noDigit noLetter isBlank =>
      rw [next?_blank isBlank] at cut
      cases cut
      exact ⟨by simp, forall_mem_run isBlank following⟩
  | case9 c following noEquals noNewline noMinus noDigit noLetter noBlank =>
      simp [next?, noDigit, noLetter, noBlank] at cut

private theorem length_text_numeral (negative : Bool) (whole fraction : List Char) :
    (numeral negative whole fraction).text.length =
      negative.toNat + whole.length + if fraction.isEmpty then 0 else fraction.length + 1 := by
  cases negative <;> cases fraction <;> simp [text] <;> omega

private theorem takeWhile_run_append
    {belongs : Char → Bool}
    {run : List Char}
    (inRun : ∀ c ∈ run, belongs c)
    (rest : List Char) :
    run.length ≤ ((run ++ rest).takeWhile belongs).length := by
  rw [List.takeWhile_append_of_pos inRun, List.length_append]
  omega

private theorem length_le_cutNumeral
    (negative : Bool)
    (first : Char)
    {others fraction : List Char}
    (wholeDigits : ∀ c ∈ others, c.isDigit)
    (fractionDigits : ∀ c ∈ fraction, c.isDigit)
    (suffix : List Char) :
    (numeral negative (first :: others) fraction).text.length ≤
      (cutNumeral negative first (others ++
        ((if fraction.isEmpty then [] else '.' :: fraction) ++ suffix))).1.text.length := by
  cases fraction with
  | nil =>
      have reaches := takeWhile_run_append wholeDigits suffix
      simp only [cutNumeral, length_text_numeral, List.length_cons, List.isEmpty_nil, ↓reduceIte,
        List.nil_append]
      omega
  | cons digit digits =>
      -- The point is no digit, so the whole part ends there and the fraction starts behind it.
      have noDigit : ¬ '.'.isDigit := by decide
      obtain ⟨isDigit, otherDigits⟩ := List.forall_mem_cons.mp fractionDigits
      have reaches := takeWhile_run_append otherDigits suffix
      simp only [cutNumeral, length_text_numeral, List.length_cons, List.isEmpty_cons,
        Bool.false_eq_true, ↓reduceIte, List.cons_append,
        List.takeWhile_append_of_pos wholeDigits, List.dropWhile_append_of_pos wholeDigits,
        List.takeWhile_cons_of_neg noDigit, List.dropWhile_cons_of_neg noDigit, cutFraction,
        isDigit, List.append_nil]
      omega

/-- The first lexeme reaches at least as far as any lexeme that stands at the start of a text, and
has the same shape. -/
theorem next?_reaches {lexeme : Lexeme} (wellFormed : lexeme.WellFormed) (suffix : List Char) :
    ∃ found rest,
      next? (lexeme.text ++ suffix) = some (found, rest) ∧ found.shape = lexeme.shape ∧
      lexeme.text.length ≤ found.text.length := by
  cases lexeme with
  | numeral negative whole fraction =>
      obtain ⟨nonempty, wholeDigits, fractionDigits⟩ := wellFormed
      obtain ⟨first, others, rfl⟩ := List.exists_cons_of_ne_nil nonempty
      obtain ⟨isDigit, otherDigits⟩ := List.forall_mem_cons.mp wholeDigits
      have longEnough := length_le_cutNumeral negative first otherDigits fractionDigits suffix
      have cutOff : next? ((numeral negative (first :: others) fraction).text ++ suffix) =
          some (cutNumeral negative first (others ++
            ((if fraction.isEmpty then [] else '.' :: fraction) ++ suffix))) := by
        cases negative with
        | false =>
            rw [← next?_digit isDigit]
            simp [text]
        | true => simp [text, next?, isDigit]
      exact ⟨_, _, cutOff, rfl, longEnough⟩
  | word letters =>
      obtain ⟨first, others, rfl, starts, continues⟩ := wellFormed
      refine ⟨_, _, next?_letter starts (others ++ suffix), rfl, ?_⟩
      have reaches := takeWhile_run_append continues suffix
      simp only [text, List.length_cons]
      omega
  | equals => exact ⟨.equals, suffix, rfl, rfl, le_rfl⟩
  | newline => exact ⟨.newline, suffix, rfl, rfl, le_rfl⟩
  | blanks spaces =>
      obtain ⟨nonempty, areBlank⟩ := wellFormed
      obtain ⟨first, others, rfl⟩ := List.exists_cons_of_ne_nil nonempty
      obtain ⟨isBlank, othersBlank⟩ := List.forall_mem_cons.mp areBlank
      refine ⟨_, _, next?_blank isBlank (others ++ suffix), rfl, ?_⟩
      have reaches := takeWhile_run_append othersBlank suffix
      simp only [text, List.length_cons]
      omega

end Lexeme

end Reckoner
