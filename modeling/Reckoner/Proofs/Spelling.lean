import Reckoner.Proofs.Concatenation

/-!
Contract: tokens that are spelled out are read back as they are.

A lexeme that stands alone is its own longest match, and each token that can be spelled is the token
of such a lexeme.  Between two tokens stands a gap of one blank and of as many line breaks as the
second one is further down.  No lexeme reaches across a gap, so the scanner finds the tokens again,
each with its value and on its line.

Owns: lexemes that stand alone, the tokens that can be spelled, the spelling of a list of tokens, and
that the scanner undoes it.

Does not own: the spelling of reals.
-/

namespace Reckoner

/-! ### Lexemes that stand alone -/

namespace Lexeme

private theorem text_ne_nil {lexeme : Lexeme} (wellFormed : lexeme.WellFormed) :
    lexeme.text ≠ [] := by
  cases lexeme with
  | numeral negative whole fraction => simp [text, wellFormed.1]
  | word letters =>
      obtain ⟨first, rest, rfl, -⟩ := wellFormed
      exact List.cons_ne_nil first rest
  | equals => exact List.cons_ne_nil _ _
  | newline => exact List.cons_ne_nil _ _
  | blanks spaces => exact wellFormed.1

private theorem wellFormed_word_of_all
    {letters : List Char}
    (starts : letters.head?.any startsWord)
    (continues : letters.tail.all continuesWord) :
    (word letters).WellFormed := by
  cases letters with
  | nil => cases starts
  | cons first rest => exact ⟨first, rest, rfl, starts, List.all_eq_true.mp continues⟩

private theorem wellFormed_word {letters : List Char} (isWord : letters ∈ Pattern.ofShape .word) :
    (word letters).WellFormed := by
  obtain ⟨lexeme, wellFormed, sameShape, rfl⟩ := (mem_ofShape_iff _ _).mp isWord
  cases lexeme with
  | word letters => exact wellFormed
  | numeral | equals | newline | blanks => cases sameShape

/-- Nothing that starts a text is longer than the text. -/
theorem longestMatch_text {lexeme : Lexeme} (wellFormed : lexeme.WellFormed) :
    Pattern.LongestMatch lexeme.text lexeme.piece where
  nonempty := text_ne_nil wellFormed
  starts := List.prefix_rfl
  fits := text_mem_ofShape wellFormed
  longest := fun _ _ starts _ => starts.length_le

/-- A lexeme that stands alone has its own token. -/
theorem scanFrom_text {lexeme : Lexeme} (wellFormed : lexeme.WellFormed) (line : Nat) :
    Token.scanFrom line lexeme.text =
      .ok (lexeme.token?.map (PlacedToken.mk · line)).toList := by
  have longest : Pattern.LongestMatch (lexeme.piece.text ++ []) lexeme.piece := by
    rw [List.append_nil]
    exact longestMatch_text wellFormed
  obtain ⟨found, first, samePiece⟩ := next?_of_longestMatch longest
  have sameToken : found.token? = lexeme.token? := by
    rw [← token?_piece (wellFormed_of_next? first), samePiece, token?_piece wellFormed]
  have alone : next? lexeme.text = some (found, []) := by
    rwa [List.append_nil] at first
  rw [Token.scanFrom_of_next? alone, Token.scanFrom_nil, sameToken]
  exact congrArg Except.ok (List.append_nil _)

end Lexeme

/-! ### Integers -/

namespace Lexeme

private theorem wellFormed_integer (value : Int) :
    (numeral (value < 0) (Decimal.digits value.natAbs) []).WellFormed := by
  refine ⟨Nat.toDigits_ne_nil, ?_, by simp⟩
  intro c member
  exact Nat.isDigit_of_mem_toDigits (by decide) (by decide) member

private theorem text_integer (value : Int) :
    (numeral (value < 0) (Decimal.digits value.natAbs) []).text = Decimal.signedDigits value := by
  by_cases negative : value < 0 <;> simp [text, Decimal.signedDigits, negative]

end Lexeme

namespace Number

/-- The digits of an integer are read as the integer, also when its magnitude does not fit. -/
theorem ofNumeral_signedDigits (value : Int64) :
    ofNumeral (value.toInt < 0) (Decimal.digits value.toInt.natAbs) [] = .integer value := by
  have signed : (if decide (value.toInt < 0) then -(value.toInt.natAbs : Int)
      else value.toInt.natAbs) = value.toInt := by
    by_cases negative : value.toInt < 0
    · rw [if_pos (decide_eq_true negative)]
      omega
    · rw [if_neg (by simpa using negative)]
      omega
  simp only [ofNumeral, List.append_nil, Decimal.ofDigits_digits, List.isEmpty_nil, ↓reduceIte]
  rw [signed, (ofInt?_eq_some_iff _ _).mpr rfl]

end Number

/-! ### Tokens that can be spelled -/

namespace Token

/-- Tokens that can be spelled: the keywords, the equals sign, integers, and words that are none of
the twelve keywords. -/
def Spellable : Token → Prop
  | .number (.integer _) | .operator _ | .var | .print | .assign => True
  | .identifier name =>
      name.toList ∈ Pattern.ofShape .word ∧ name ∉ Pattern.keywords.map Prod.fst
  | .number (.real _) | .newline | .blank => False

private theorem wellFormed_keyword (operator : Operator) :
    (Lexeme.word operator.keyword.toList).WellFormed := by
  apply Lexeme.wellFormed_word_of_all <;>
    rcases operator with operator | operator <;> cases operator <;> decide

theorem ofWord_keyword (operator : Operator) : ofWord operator.keyword = .operator operator := by
  rcases operator with operator | operator <;> cases operator <;> decide

private theorem ofWord_of_notMem_keywords
    {name : String}
    (noKeyword : name ∉ Pattern.keywords.map Prod.fst) :
    ofWord name = .identifier name := by
  have missing : Pattern.keywords.lookup name = none := by
    rw [List.lookup_eq_none_iff]
    intro entry member
    rw [bne_iff_ne]
    rintro rfl
    exact noKeyword (List.mem_map_of_mem member)
  rw [← Lexeme.wordToken_eq, Pattern.wordToken, missing]
  rfl

/-- Every token that can be spelled is the token of a lexeme with its content. -/
theorem Spellable.exists_lexeme {token : Token} (spellable : token.Spellable) :
    ∃ lexeme : Lexeme, lexeme.WellFormed ∧ lexeme.text = token.content.toList ∧
      lexeme.token? = some token := by
  cases token with
  | number value =>
      cases value with
      | real value => exact spellable.elim
      | integer value =>
          refine ⟨.numeral (value.toInt < 0) (Decimal.digits value.toInt.natAbs) [], ?_, ?_, ?_⟩
          · exact Lexeme.wellFormed_integer value.toInt
          · rw [Lexeme.text_integer]
            exact String.toList_ofList.symm
          · exact congrArg (fun number => some (Token.number number))
              (Number.ofNumeral_signedDigits value)
  | operator operator =>
      refine ⟨.word operator.keyword.toList, wellFormed_keyword operator, rfl, ?_⟩
      rw [Lexeme.token?, String.ofList_toList, ofWord_keyword]
  | var =>
      refine ⟨.word "VAR".toList, ?_, rfl, rfl⟩
      exact Lexeme.wellFormed_word_of_all (by decide) (by decide)
  | print =>
      refine ⟨.word "PRINT".toList, ?_, rfl, rfl⟩
      exact Lexeme.wellFormed_word_of_all (by decide) (by decide)
  | assign => exact ⟨.equals, trivial, rfl, rfl⟩
  | identifier name =>
      obtain ⟨isWord, noKeyword⟩ := spellable
      refine ⟨.word name.toList, Lexeme.wellFormed_word isWord, rfl, ?_⟩
      rw [Lexeme.token?, String.ofList_toList, ofWord_of_notMem_keywords noKeyword]
  | newline => exact spellable.elim
  | blank => exact spellable.elim

/-! ### Spelled tokens -/

private theorem count_newline_cons (c : Char) (rest : List Char) :
    (c :: rest).count '\n' = [c].count '\n' + rest.count '\n' := by
  rw [← List.singleton_append, List.count_append]

/-- A text of separators has no token, and its line breaks lead to further lines. -/
theorem scanFrom_separators
    {gap : List Char}
    (separate : ∀ c ∈ gap, Lexeme.Separates c)
    (line : Nat)
    (more : List Char) :
    scanFrom line (gap ++ more) = scanFrom (line + gap.count '\n') more := by
  induction gap generalizing line with
  | nil => rfl
  | cons c rest inductionHypothesis =>
      obtain ⟨separates, othersSeparate⟩ := List.forall_mem_cons.mp separate
      rw [List.cons_append, scanFrom_separator separates, inductionHypothesis othersSeparate,
        count_newline_cons c rest, Nat.add_assoc]

section Spellable

variable {token : Token} (spellable : token.Spellable)
include spellable

/-- A token that is spelled alone is read back. -/
theorem Spellable.scanFrom_content (line : Nat) :
    scanFrom line token.content.toList = .ok [⟨token, line⟩] := by
  obtain ⟨lexeme, wellFormed, sameText, sameToken⟩ := spellable.exists_lexeme
  rw [← sameText, Lexeme.scanFrom_text wellFormed, sameToken]
  rfl

private theorem Spellable.count_newline_content : token.content.toList.count '\n' = 0 := by
  obtain ⟨lexeme, wellFormed, sameText, sameToken⟩ := spellable.exists_lexeme
  have noNewline : lexeme.shape ≠ .newline := by
    intro isNewline
    cases lexeme with
    | newline => cases sameToken
    | numeral | word | equals | blanks => cases isNewline
  rw [← sameText, List.count_eq_zero]
  exact Lexeme.newline_notMem_text wellFormed noNewline

/-- A token that can be spelled is found before a gap, and the scanner goes on behind the gap. -/
theorem Spellable.scanFrom_append
    {gap : List Char}
    (nonempty : gap ≠ [])
    (separate : ∀ c ∈ gap, Lexeme.Separates c)
    (line : Nat)
    (more : List Char) :
    scanFrom line (token.content.toList ++ (gap ++ more)) =
      (scanFrom (line + gap.count '\n') more).map (⟨token, line⟩ :: ·) := by
  obtain ⟨c, rest, rfl⟩ := List.exists_cons_of_ne_nil nonempty
  obtain ⟨separates, othersSeparate⟩ := List.forall_mem_cons.mp separate
  -- The first separator ends the token, and the others only lead to further lines.
  have splits := splitsAt separates (rest ++ more) line token.content.toList
  have behind : line + (token.content.toList ++ [c]).count '\n' + rest.count '\n' =
      line + (c :: rest).count '\n' := by
    rw [List.count_append, spellable.count_newline_content, count_newline_cons c rest]
    omega
  unfold SplitsAt at splits
  rw [spellable.scanFrom_content, scanFrom_separators othersSeparate, behind] at splits
  exact splits

end Spellable

/-- The text of tokens behind a token on `line`.  Each stands behind a gap, whose line breaks lead
to its own line. -/
def spellBehind (gap : Nat → List Char) (line : Nat) : List PlacedToken → List Char
  | [] => []
  | placed :: rest =>
      gap (placed.line - line) ++
        (placed.token.content.toList ++ spellBehind gap placed.line rest)

/-- The text of a list of tokens.  The first one stands behind line breaks alone, which lead from
line one to its own line. -/
def spell (gap : Nat → List Char) : List PlacedToken → String
  | [] => ""
  | placed :: rest =>
      String.ofList (List.replicate (placed.line - 1) '\n' ++
        (placed.token.content.toList ++ spellBehind gap placed.line rest))

/-- A gap is made of one blank and as many line breaks as asked for, in any order. -/
def IsGap (gap : Nat → List Char) : Prop :=
  ∀ lines, (gap lines).Perm (' ' :: List.replicate lines '\n')

namespace IsGap

variable {gap : Nat → List Char} (isGap : IsGap gap) (lines : Nat)
include isGap

private theorem ne_nil : gap lines ≠ [] := by
  intro empty
  have sameLength := (isGap lines).length_eq
  rw [empty] at sameLength
  cases sameLength

theorem separates : ∀ c ∈ gap lines, Lexeme.Separates c := by
  intro c member
  rcases List.mem_cons.mp ((isGap lines).mem_iff.mp member) with isBlank | isNewline
  · rw [isBlank]
    exact .inr (by decide)
  · exact .inl (List.eq_of_mem_replicate isNewline)

private theorem count_newline : (gap lines).count '\n' = lines := by
  rw [(isGap lines).count_eq, List.count_cons_of_ne (by decide), List.count_replicate_self]

end IsGap

/-- The scanner reads spelled tokens back, from the line of the first of them on. -/
theorem scanFrom_spelled
    {gap : Nat → List Char}
    (isGap : IsGap gap)
    {placed : PlacedToken}
    {rest : List PlacedToken}
    (spellable : ∀ other ∈ placed :: rest, other.token.Spellable)
    (ordered : (placed :: rest).Pairwise fun first second => first.line ≤ second.line) :
    scanFrom placed.line (placed.token.content.toList ++ spellBehind gap placed.line rest) =
      .ok (placed :: rest) := by
  induction rest generalizing placed with
  | nil =>
      have firstSpellable := spellable placed List.mem_cons_self
      rw [spellBehind, List.append_nil, firstSpellable.scanFrom_content]
  | cons next rest inductionHypothesis =>
      obtain ⟨firstSpellable, othersSpellable⟩ := List.forall_mem_cons.mp spellable
      obtain ⟨above, othersOrdered⟩ := List.pairwise_cons.mp ordered
      have reached : placed.line + (next.line - placed.line) = next.line :=
        Nat.add_sub_of_le (above next List.mem_cons_self)
      rw [spellBehind, firstSpellable.scanFrom_append (isGap.ne_nil _) (isGap.separates _),
        isGap.count_newline, reached, inductionHypothesis othersSpellable othersOrdered]
      rfl

/-- **Scanning undoes spelling.**  Tokens that can be spelled, on lines that start at one and never
go back, are spelled out with gaps between them.  The scanner reads this text as the same tokens
with the same values, each on its line. -/
theorem scan_spell
    {gap : Nat → List Char}
    (isGap : IsGap gap)
    {tokens : List PlacedToken}
    (spellable : ∀ placed ∈ tokens, placed.token.Spellable)
    (fromOne : ∀ placed ∈ tokens, 1 ≤ placed.line)
    (ordered : tokens.Pairwise fun first second => first.line ≤ second.line) :
    scan (spell gap tokens) = .ok tokens := by
  cases tokens with
  | nil => exact scanFrom_nil 1
  | cons placed rest =>
      have reached : 1 + (placed.line - 1) = placed.line :=
        Nat.add_sub_of_le (fromOne placed List.mem_cons_self)
      have separate : ∀ c ∈ List.replicate (placed.line - 1) '\n', Lexeme.Separates c :=
        fun _ member => .inl (List.eq_of_mem_replicate member)
      rw [scan_eq_scanFrom, spell, String.toList_ofList, scanFrom_separators separate,
        List.count_replicate_self, reached, scanFrom_spelled isGap spellable ordered]

/-- The least integer, whose magnitude does not fit, behind a name that starts like a keyword. -/
theorem scan_spell_leastInteger :
    let gap := fun lines => ' ' :: List.replicate lines '\n'
    let tokens : List PlacedToken :=
      [⟨.var, 2⟩, ⟨.identifier "VAR_2", 2⟩, ⟨.assign, 2⟩, ⟨.number (.integer Int64.minValue), 4⟩]
    IsGap gap ∧
    (∀ placed ∈ tokens, placed.token.Spellable) ∧
    (∀ placed ∈ tokens, 1 ≤ placed.line) ∧
    (tokens.Pairwise fun first second => first.line ≤ second.line) ∧
    spell gap tokens = "\nVAR VAR_2 = \n\n-9223372036854775808" ∧
    scan (spell gap tokens) = .ok tokens := by
  intro gap tokens
  have isGap : IsGap gap := fun lines => List.Perm.refl _
  have isWord : "VAR_2".toList ∈ Pattern.ofShape .word :=
    Lexeme.text_mem_ofShape (Lexeme.wellFormed_word_of_all (by decide) (by decide))
  have spellable : ∀ placed ∈ tokens, placed.token.Spellable := by
    intro placed member
    simp only [tokens, List.mem_cons, List.not_mem_nil, or_false] at member
    rcases member with rfl | rfl | rfl | rfl
    · trivial
    · exact ⟨isWord, by decide⟩
    · trivial
    · trivial
  have fromOne : ∀ placed ∈ tokens, 1 ≤ placed.line := by decide
  have ordered : tokens.Pairwise fun first second => first.line ≤ second.line := by decide
  refine ⟨isGap, spellable, fromOne, ordered, ?_, scan_spell isGap spellable fromOne ordered⟩
  decide +kernel

end Token

end Reckoner
