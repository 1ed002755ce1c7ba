import Mathlib.Data.List.Induction
import Mathlib.Data.Nat.Digits.Defs
import Reckoner.Proofs.IntegerSteps
import Reckoner.Proofs.NumberText
import Reckoner.Proofs.Spelling
import Reckoner.Proofs.Zeros

/-!
Contract: the numbers that numerals are read as.

A numeral without a point is read exactly.  Each digit counts by its place, however many there are,
and only a value that does not fit in 64 bits is left to the nearest real.  A numeral with a point is
a real.

The text of a real in the positional range is a numeral with a point, and its digits are those of a
decimal that is read back as the real.  Outside of the range the text has a letter.  A letter belongs
to a word, and the token of a word is no number.

Owns: the two forms of numerals, the value of digits by their places, the number of a numeral, and
the reals whose text is read back.

Does not own: the choice of the nearest real.
-/

namespace Reckoner

/-! ### Digits by their places -/

namespace Decimal

/-- The value of digits by their places: the last digit counts once, and each other one ten times
as much as it would in the next place. -/
def placeValue (digits : List Char) : Nat :=
  Nat.ofDigits 10 (digits.reverse.map fun c => c.toNat - '0'.toNat)

private theorem placeValue_concat (digits : List Char) (c : Char) :
    placeValue (digits ++ [c]) = 10 * placeValue digits + (c.toNat - '0'.toNat) := by
  rw [placeValue, List.reverse_concat, List.map_cons, Nat.ofDigits_cons, Nat.add_comm]
  rfl

/-- Digits are read from the front, one after the other, and come to the sum over the places. -/
theorem ofDigits_eq_placeValue (digits : List Char) : ofDigits digits = placeValue digits := by
  induction digits using List.reverseRecOn with
  | nil => rfl
  | append_singleton digits c inductionHypothesis =>
      rw [placeValue_concat, ← inductionHypothesis, ofDigits, ofDigits, Nat.ofDigitChars,
        List.foldl_concat]
      rfl

/-- The exact value of a numeral without a point. -/
def wholeValue : List Char → Int
  | '-' :: digits => -(placeValue digits : Int)
  | digits => placeValue digits

/-- The real nearest to a numeral with a point: the value of all its digits, divided by ten for each
place behind the point. -/
def pointedReal (numeral : List Char) : Float :=
  Binary64.ofMagnitude (numeral.head? == some '-')
    (Binary64.nearest (placeValue (numeral.filter Char.isDigit))
      (Nat.pow 10 (numeral.dropWhile (· != '.')).tail.length))

end Decimal

/-! ### The two forms of numerals -/

private theorem Lexeme.text_of_fraction
    (negative : Bool)
    (whole : List Char)
    {fraction : List Char}
    (hasFraction : fraction ≠ []) :
    (numeral negative whole fraction).text =
      (if negative then ['-'] else []) ++ whole ++ '.' :: fraction := by
  simp [text, hasFraction]

namespace Pattern

open Computability

/-- Numerals without a point: `-?[0-9]+`. -/
def wholeNumeral : Language Char :=
  (1 + {['-']}) * runOf digit

/-- Numerals with a point: `-?[0-9]+\.[0-9]+`. -/
def pointedNumeral : Language Char :=
  wholeNumeral * ({['.']} * runOf digit)

private theorem mem_runOf_digit_iff (text : List Char) :
    text ∈ runOf digit ↔ text ≠ [] ∧ ∀ c ∈ text, c.isDigit := by
  simp only [mem_runOf_iff, isDigit_iff]

private theorem exists_of_mem_wholeNumeral {text : List Char} (isNumeral : text ∈ wholeNumeral) :
    ∃ negative digits, (Lexeme.numeral negative digits []).WellFormed ∧
      (Lexeme.numeral negative digits []).text = text := by
  obtain ⟨sign, isSign, digits, areDigits, rfl⟩ := isNumeral
  obtain ⟨nonempty, allDigits⟩ := (mem_runOf_digit_iff digits).mp areDigits
  have wellFormed (negative : Bool) : (Lexeme.numeral negative digits []).WellFormed :=
    ⟨nonempty, allDigits, by simp⟩
  rcases isSign with rfl | rfl
  · exact ⟨false, digits, wellFormed false, by simp [Lexeme.text]⟩
  · exact ⟨true, digits, wellFormed true, by simp [Lexeme.text]⟩

private theorem exists_of_mem_pointedNumeral
    {text : List Char}
    (isNumeral : text ∈ pointedNumeral) :
    ∃ negative whole fraction, fraction ≠ [] ∧
      (Lexeme.numeral negative whole fraction).WellFormed ∧
      (Lexeme.numeral negative whole fraction).text = text := by
  obtain ⟨front, isWhole, back, ⟨point, rfl, fraction, areDigits, rfl⟩, rfl⟩ := isNumeral
  obtain ⟨hasFraction, allDigits⟩ := (mem_runOf_digit_iff fraction).mp areDigits
  obtain ⟨negative, whole, ⟨someDigit, wholeDigits, -⟩, rfl⟩ := exists_of_mem_wholeNumeral isWhole
  refine ⟨negative, whole, fraction, hasFraction, ⟨someDigit, wholeDigits, allDigits⟩, ?_⟩
  rw [Lexeme.text_of_fraction negative whole hasFraction]
  simp [Lexeme.text]

end Pattern

/-! ### The number of a numeral -/

private theorem Binary64.ofDecimal_places (coefficient places : Nat) :
    ofDecimal ⟨coefficient, -(places : Int)⟩ = nearest coefficient (Nat.pow 10 places) := by
  have noTens : (-(places : Int)).toNat = 0 := by omega
  have unscaled : coefficient * Nat.pow 10 0 = coefficient := Nat.mul_one _
  simp only [ofDecimal, Decimal.numerator, Decimal.denominator, noTens, unscaled, Int.neg_neg,
    Int.toNat_natCast]

namespace Decimal

/-- The value of a numeral without a point is that of its digits, with its sign. -/
theorem wholeValue_text
    (negative : Bool)
    {digits : List Char}
    (allDigits : ∀ c ∈ digits, c.isDigit) :
    wholeValue (Lexeme.numeral negative digits []).text =
      if negative then -(ofDigits digits : Int) else ofDigits digits := by
  rw [ofDigits_eq_placeValue]
  cases negative with
  | true => simp [Lexeme.text, wholeValue]
  | false =>
      have noSign : ∀ rest, digits ≠ '-' :: rest := by
        rintro rest rfl
        exact notMem_of_allDigits allDigits rfl List.mem_cons_self
      simp [Lexeme.text, wholeValue]

/-- A numeral with a point is taken apart: its sign, all its digits, and those behind the point. -/
theorem pointedReal_text
    (negative : Bool)
    {whole fraction : List Char}
    (wellFormed : (Lexeme.numeral negative whole fraction).WellFormed)
    (hasFraction : fraction ≠ []) :
    pointedReal (Lexeme.numeral negative whole fraction).text =
      Binary64.ofMagnitude negative
        (Binary64.ofDecimal ⟨ofDigits (whole ++ fraction), -(fraction.length : Int)⟩) := by
  have sign := Lexeme.minus_opens_numeral negative wellFormed
  obtain ⟨-, wholeDigits, fractionDigits⟩ := wellFormed
  have isText := Lexeme.text_of_fraction negative whole hasFraction
  have digits : (Lexeme.numeral negative whole fraction).text.filter Char.isDigit =
      whole ++ fraction := by
    rw [isText, List.filter_append, List.filter_append, List.filter_eq_self.mpr wholeDigits,
      List.filter_cons_of_neg (by decide), List.filter_eq_self.mpr fractionDigits]
    cases negative <;> rfl
  have behind : ((Lexeme.numeral negative whole fraction).text.dropWhile (· != '.')).tail =
      fraction := by
    have noPoint : '.' ∉ (if negative then ['-'] else []) ++ whole := by
      have notWhole : '.' ∉ whole := notMem_of_allDigits wholeDigits rfl
      cases negative <;> simp [notWhole]
    have before : ∀ c ∈ (if negative then ['-'] else []) ++ whole, (c != '.') = true :=
      fun c member => bne_iff_ne.mpr (ne_of_mem_of_not_mem member noPoint)
    rw [isText, List.dropWhile_append_of_pos before, List.dropWhile_cons_of_neg (by decide),
      List.tail_cons]
  rw [pointedReal, sign, digits, behind, ← ofDigits_eq_placeValue, Binary64.ofDecimal_places]

end Decimal

namespace Number

section Whole

variable {negative : Bool} {digits : List Char} {value : Int}
  (isValue : (if negative then -(Decimal.ofDigits digits : Int) else Decimal.ofDigits digits) = value)
include isValue

/-- A value that fits is read exactly. -/
theorem ofNumeral_of_fits (fits : Fits value) :
    ∃ exact : Int64, ofNumeral negative digits [] = .integer exact ∧ exact.toInt = value := by
  obtain ⟨exact, found⟩ := exists_ofInt? fits
  refine ⟨exact, ?_, (ofInt?_eq_some_iff _ _).mp found⟩
  simp only [ofNumeral, List.append_nil, List.isEmpty_nil, ↓reduceIte, isValue, found]

/-- A value that does not fit is not zero, so its sign is that of the numeral. -/
theorem ofNumeral_of_not_fits (tooLarge : ¬ Fits value) :
    ofNumeral negative digits [] = .real (Binary64.ofInt value) := by
  have nonzero : value ≠ 0 := by
    rintro rfl
    exact tooLarge (by decide)
  have sameSign : decide (value < 0) = negative := by
    cases negative <;> simp at isValue ⊢ <;> omega
  have sameSize : value.natAbs = Decimal.ofDigits digits := by
    cases negative <;> simp at isValue <;> omega
  simp only [ofNumeral, List.append_nil, List.isEmpty_nil, ↓reduceIte, isValue,
    ofInt?_of_not_fits tooLarge, Binary64.ofDecimal_places]
  rw [Binary64.ofInt, sameSign, sameSize]
  rfl

end Whole

/-- A numeral with a point is a real, also if its fraction is zero. -/
theorem ofNumeral_of_fraction
    (negative : Bool)
    (whole : List Char)
    {fraction : List Char}
    (hasFraction : fraction ≠ []) :
    ofNumeral negative whole fraction = .real (Binary64.ofMagnitude negative
      (Binary64.ofDecimal ⟨Decimal.ofDigits (whole ++ fraction), -(fraction.length : Int)⟩)) := by
  have notEmpty : fraction.isEmpty = false := by simpa using hasFraction
  simp only [ofNumeral, notEmpty, Bool.false_eq_true, ↓reduceIte]

end Number

namespace Token

/-- A numeral that stands alone is one token. -/
theorem scan_of_numeral
    {text : String}
    {negative : Bool}
    {whole fraction : List Char}
    (wellFormed : (Lexeme.numeral negative whole fraction).WellFormed)
    (isText : (Lexeme.numeral negative whole fraction).text = text.toList) :
    scan text = .ok [⟨.number (Number.ofNumeral negative whole fraction), 1⟩] := by
  rw [scan_eq_scanFrom, ← isText, Lexeme.scanFrom_text wellFormed]
  rfl

/-- **Numerals are read exactly.**  A text of the form `-?[0-9]+`, of any length and with any leading
zeros, is one number on line one: the integer with its exact value if that fits in 64 bits, and
otherwise the nearest real.  A text of the form `-?[0-9]+\.[0-9]+` is one real on line one. -/
theorem numerals_read_exactly (text : String) :
    (text.toList ∈ Pattern.wholeNumeral →
      ∃ number, scan text = .ok [⟨.number number, 1⟩] ∧
        (Number.Fits (Decimal.wholeValue text.toList) →
          ∃ value : Int64, number = .integer value ∧
            value.toInt = Decimal.wholeValue text.toList) ∧
        (¬ Number.Fits (Decimal.wholeValue text.toList) →
          number = .real (Binary64.ofInt (Decimal.wholeValue text.toList)))) ∧
    (text.toList ∈ Pattern.pointedNumeral →
      scan text = .ok [⟨.number (.real (Decimal.pointedReal text.toList)), 1⟩]) := by
  constructor
  · intro isNumeral
    obtain ⟨negative, digits, wellFormed, isText⟩ := Pattern.exists_of_mem_wholeNumeral isNumeral
    have isValue := Decimal.wholeValue_text negative wellFormed.2.1
    rw [isText] at isValue
    exact ⟨_, scan_of_numeral wellFormed isText, Number.ofNumeral_of_fits isValue.symm,
      Number.ofNumeral_of_not_fits isValue.symm⟩
  · intro isNumeral
    obtain ⟨negative, whole, fraction, hasFraction, wellFormed, isText⟩ :=
      Pattern.exists_of_mem_pointedNumeral isNumeral
    rw [scan_of_numeral wellFormed isText, Number.ofNumeral_of_fraction _ _ hasFraction,
      ← isText, Decimal.pointedReal_text negative wellFormed hasFraction]

/-- The least integer behind leading zeros, the first integer that does not fit, and a real. -/
theorem numerals_read_exactly_leastInteger :
    let least := "-0009223372036854775808"
    let beyond := "9223372036854775808"
    let half := "-0.50"
    (least.toList ∈ Pattern.wholeNumeral ∧ Number.Fits (Decimal.wholeValue least.toList) ∧
      scan least = .ok [⟨.number (.integer Int64.minValue), 1⟩]) ∧
    (beyond.toList ∈ Pattern.wholeNumeral ∧ ¬ Number.Fits (Decimal.wholeValue beyond.toList) ∧
      scan beyond = .ok [⟨.number (.real 9223372036854775808.0), 1⟩]) ∧
    (half.toList ∈ Pattern.pointedNumeral ∧
      scan half = .ok [⟨.number (.real (-0.5)), 1⟩]) := by
  intro least beyond half
  have isRun {text : List Char} (nonempty : text ≠ []) (allDigits : text.all Char.isDigit) :
      text ∈ Pattern.runOf Pattern.digit :=
    (Pattern.mem_runOf_digit_iff text).mpr ⟨nonempty, List.all_eq_true.mp allDigits⟩
  have leastForm : least.toList ∈ Pattern.wholeNumeral :=
    ⟨['-'], .inr rfl, "0009223372036854775808".toList, isRun (by decide) (by decide), by decide⟩
  have leastFits : Number.Fits (Decimal.wholeValue least.toList) := by decide
  have beyondForm : beyond.toList ∈ Pattern.wholeNumeral :=
    ⟨[], .inl rfl, beyond.toList, isRun (by decide) (by decide), rfl⟩
  have tooLarge : ¬ Number.Fits (Decimal.wholeValue beyond.toList) := by decide
  have halfForm : half.toList ∈ Pattern.pointedNumeral :=
    ⟨"-0".toList, ⟨['-'], .inr rfl, ['0'], isRun (by decide) (by decide), rfl⟩,
      ".50".toList, ⟨['.'], rfl, "50".toList, isRun (by decide) (by decide), rfl⟩,
      by decide⟩
  refine ⟨⟨leastForm, leastFits, ?_⟩, ⟨beyondForm, tooLarge, ?_⟩, halfForm, ?_⟩
  · obtain ⟨number, scanned, exact, -⟩ := (numerals_read_exactly least).1 leastForm
    obtain ⟨value, rfl, isValue⟩ := exact leastFits
    have isLeast : value = Int64.minValue := Int64.toInt_inj.mp (isValue.trans (by decide))
    rw [scanned, isLeast]
  · obtain ⟨number, scanned, -, promoted⟩ := (numerals_read_exactly beyond).1 beyondForm
    have isReal : Binary64.ofInt (Decimal.wholeValue beyond.toList) = 9223372036854775808.0 := by
      decide +kernel
    rw [scanned, promoted tooLarge, isReal]
  · have isReal : Decimal.pointedReal half.toList = -0.5 := by decide +kernel
    rw [(numerals_read_exactly half).2 halfForm, isReal]

end Token

/-! ### Reals that are read back -/

namespace Number

private theorem ofNumeral_of_readsAs
    {real : Float}
    (finite : Binary64.magnitude real < Binary64.infinity)
    {whole fraction : List Char}
    (reads : RealFormat.ReadsAs whole fraction (Binary64.shortest (Binary64.magnitude real))) :
    ofNumeral (Binary64.isSigned real) whole fraction = .real real := by
  have bounded : Binary64.magnitude real ≤ Binary64.infinity := Nat.le_of_lt finite
  rw [ofNumeral_of_fraction _ _ reads.fraction_ne_nil, reads.nearest,
    Binary64.ofDecimal_shortest finite]
  congr 1
  apply Binary64.eq_of_sign_of_magnitude
  · exact Binary64.isSigned_ofMagnitude bounded _
  · exact Binary64.magnitude_ofMagnitude bounded _

end Number

namespace RealFormat

private theorem isPositional_iff (real : Float) :
    isPositional real = true ↔
      real = 0.0 ∨ real = -0.0 ∨ (1e-4 ≤ real.abs ∧ real.abs < 1e16) := by
  rw [isPositional, Bool.or_eq_true, Bool.and_eq_true, decide_eq_true_eq, decide_eq_true_eq,
    Binary64.beq_zero_iff, Binary64.magnitude_eq_zero_iff, or_assoc]

end RealFormat

namespace Lexeme

/-- A letter stands in no lexeme but a word. -/
theorem exists_word_of_letter
    {lexeme : Lexeme}
    (wellFormed : lexeme.WellFormed)
    {letter : Char}
    (starts : startsWord letter)
    (member : letter ∈ lexeme.text) :
    ∃ letters, lexeme = word letters := by
  cases lexeme with
  | word letters => exact ⟨letters, rfl⟩
  | numeral negative whole fraction =>
      obtain ⟨-, wholeDigits, fractionDigits⟩ := wellFormed
      have noDigit : letter.isDigit = false := by simpa using not_isDigit_of_startsWord starts
      have noMinus : letter ≠ '-' := ne_of_startsWord starts (by decide)
      have noPoint : letter ≠ '.' := ne_of_startsWord starts (by decide)
      have notWhole : letter ∉ whole := Decimal.notMem_of_allDigits wholeDigits noDigit
      have notFraction : letter ∉ fraction := Decimal.notMem_of_allDigits fractionDigits noDigit
      cases negative <;> cases fraction <;> simp_all [text]
  | equals =>
      exact absurd (List.mem_singleton.mp member) (ne_of_startsWord starts (by decide))
  | newline =>
      exact absurd (List.mem_singleton.mp member) (ne_of_startsWord starts (by decide))
  | blanks spaces =>
      have isBlank := wellFormed.2 letter member
      rw [Pattern.isBlank_iff] at isBlank
      rcases isBlank with rfl | rfl | rfl | rfl <;> cases starts

end Lexeme

namespace Token

private theorem ofWord_ne_number (text : String) (number : Number) :
    ofWord text ≠ .number number := by
  unfold ofWord
  split
  · exact Token.noConfusion
  · split
    · exact Token.noConfusion
    · split <;> exact Token.noConfusion

/-- A text with a letter has a token that is no number. -/
theorem exists_not_number_of_letter
    {line : Nat}
    {source : List Char}
    {tokens : List PlacedToken}
    (scanned : scanFrom line source = .ok tokens)
    {letter : Char}
    (starts : Lexeme.startsWord letter)
    (member : letter ∈ source) :
    ∃ placed ∈ tokens, ∀ number, placed.token ≠ .number number := by
  induction source using Lexeme.cut.induct generalizing line tokens with
  | case1 source stuck =>
      cases source with
      | nil => cases member
      | cons c rest =>
          rw [scanFrom_of_stuck stuck] at scanned
          cases scanned
  | case2 source lexeme rest first lexemes remainder others inductionHypothesis =>
      rw [scanFrom_of_next? first] at scanned
      rw [← Lexeme.text_append_of_next? first, List.mem_append] at member
      cases othersScanned : scanFrom (lexeme.lineAfter line) rest with
      | error failure =>
          rw [othersScanned] at scanned
          cases scanned
      | ok following =>
          rw [othersScanned] at scanned
          cases scanned
          rcases member with inFirst | inRest
          · obtain ⟨letters, rfl⟩ :=
              Lexeme.exists_word_of_letter (Lexeme.wellFormed_of_next? first) starts inFirst
            exact ⟨_, List.mem_cons_self, ofWord_ne_number _⟩
          · obtain ⟨placed, isFollowing, noNumber⟩ := inductionHypothesis othersScanned inRest
            exact ⟨placed, List.mem_append_right _ isFollowing, noNumber⟩

/-- The text of a real in the positional range is a numeral that is read as the real. -/
theorem scan_text_of_isPositional
    {real : Float}
    (inRange : RealFormat.isPositional real = true) :
    scan (Number.real real).text = .ok [⟨.number (.real real), 1⟩] := by
  obtain ⟨notInfinite, isNumber⟩ := RealFormat.not_special_of_isPositional inRange
  obtain ⟨whole, fraction, isText, reads⟩ := RealFormat.exists_text_of_isPositional inRange
  have finite := Binary64.magnitude_lt_infinity real isNumber notInfinite
  have wellFormed : (Lexeme.numeral (Binary64.isSigned real) whole fraction).WellFormed :=
    ⟨reads.whole_ne_nil, reads.whole_isDigit, reads.fraction_isDigit⟩
  have sameText : (Lexeme.numeral (Binary64.isSigned real) whole fraction).text =
      (Number.real real).text.toList := by
    rw [Number.text, String.toList_ofList, Number.characters, isText,
      Lexeme.text_of_fraction _ _ reads.fraction_ne_nil]
  rw [scan_of_numeral wellFormed sameText, Number.ofNumeral_of_readsAs finite reads]

/-- **The reals that are read back.**  The text of a real is read as one number, which is on line one
and has the bits of the real, exactly in the positional range: for the two zeros and for magnitudes
from `1e-4` up to but not including `1e16`. -/
theorem positional_reals_read_back (real : Float) :
    (∃ read : Float, scan (Number.real real).text = .ok [⟨.number (.real read), 1⟩] ∧
      read.toBits = real.toBits) ↔
    real = 0.0 ∨ real = -0.0 ∨ (1e-4 ≤ real.abs ∧ real.abs < 1e16) := by
  rw [← RealFormat.isPositional_iff]
  constructor
  · rintro ⟨read, scanned, -⟩
    by_contra outOfRange
    obtain ⟨letter, isLetter, member⟩ :=
      RealFormat.exists_letter_mem_text (Bool.not_eq_true _ ▸ outOfRange)
    have letters : ∀ c ∈ ['a', 'e', 'i'], Lexeme.startsWord c := List.all_eq_true.mp (by decide)
    have inText : letter ∈ (Number.real real).text.toList := by
      rw [Number.text, String.toList_ofList]
      exact member
    obtain ⟨placed, isToken, noNumber⟩ :=
      exists_not_number_of_letter scanned (letters letter isLetter) inText
    rw [List.mem_singleton.mp isToken] at noNumber
    exact noNumber _ rfl
  · intro inRange
    exact ⟨real, scan_text_of_isPositional inRange, rfl⟩

end Token

end Reckoner
