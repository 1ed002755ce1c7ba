import Mathlib.Data.List.Basic
import Reckoner.Number.Text
import Reckoner.Proofs.RealBits

/-!
Contract: the text of a number tells the number.

A text of digits, with or without a minus sign, belongs to an integer.  In the text of a real stands
a point, an exponent mark, or a letter of a special value, and these tell the layouts apart.  Digits
around a point are read as a numeral with the value of the numeral that was written, and digits
before an exponent give that numeral itself.  Since the shortest numeral of a magnitude is read back
as the magnitude, no two numbers have the same text.

Owns: the characters of a number's text, the reading of the two layouts, the special reals as those
that are in neither, and that texts tell numbers apart.

Does not own: the choice of the digits.
-/

namespace Reckoner

/-! ### Digits -/

namespace Decimal

theorem isDigit_of_mem_digits {n : Nat} {c : Char} (member : c ∈ digits n) : c.isDigit :=
  Nat.isDigit_of_mem_toDigits (by decide) (by decide) member

theorem ne_of_mem_digits
    {n : Nat}
    {c other : Char}
    (member : c ∈ digits n)
    (noDigit : other.isDigit = false) :
    c ≠ other := by
  rintro rfl
  rw [isDigit_of_mem_digits member] at noDigit
  cases noDigit

theorem notMem_of_allDigits
    {text : List Char}
    (allDigits : ∀ c ∈ text, c.isDigit)
    {other : Char}
    (noDigit : other.isDigit = false) :
    other ∉ text := by
  intro member
  rw [allDigits other member] at noDigit
  cases noDigit

theorem digits_ne_nil (n : Nat) : digits n ≠ [] :=
  Nat.toDigits_ne_nil

private theorem isDigit_of_mem_zeros
    {count : Nat}
    {c : Char}
    (member : c ∈ List.replicate count '0') :
    c.isDigit := by
  rw [List.eq_of_mem_replicate member]
  decide

/-- Leading zeros do not count. -/
theorem ofDigits_zeros_append (count : Nat) (text : List Char) :
    ofDigits (List.replicate count '0' ++ text) = ofDigits text := by
  rw [ofDigits, Nat.ofDigitChars_append, Nat.ofDigitChars_replicate_zero, Nat.mul_zero, ofDigits]

/-- Each zero at the end is a factor of ten. -/
theorem ofDigits_append_zeros (text : List Char) (count : Nat) :
    ofDigits (text ++ List.replicate count '0') = Nat.pow 10 count * ofDigits text := by
  rw [ofDigits, Nat.ofDigitChars_append, Nat.ofDigitChars_replicate_zero]
  rfl

end Decimal

private theorem Binary64.ofDecimal_eq_of_factor
    {factor : Nat}
    (positive : 0 < factor)
    {left right : Decimal}
    (numerators : left.numerator = factor * right.numerator)
    (denominators : left.denominator = factor * right.denominator) :
    ofDecimal left = ofDecimal right := by
  rw [ofDecimal, numerators, denominators, nearest_mul_left positive, ofDecimal]

namespace RealFormat

open Float.Model (Format)
open Float.Model.UnpackedFloat (Sign unpack unpackSign)

/-! ### Digits around a point -/

/-- Digits before and behind a point that are read as a given numeral. -/
structure ReadsAs (whole fraction : List Char) (decimal : Decimal) : Prop where
  whole_ne_nil : whole ≠ []
  whole_isDigit : ∀ c ∈ whole, c.isDigit
  fraction_ne_nil : fraction ≠ []
  fraction_isDigit : ∀ c ∈ fraction, c.isDigit
  nearest : Binary64.ofDecimal ⟨Decimal.ofDigits (whole ++ fraction), -(fraction.length : Int)⟩ =
    Binary64.ofDecimal decimal

/-- Without a fraction a zero is put behind the point, which stands for a factor of ten. -/
theorem readsAs_whole {decimal : Decimal} (noFraction : 0 ≤ decimal.exponent) :
    ReadsAs (Decimal.digits decimal.coefficient ++ List.replicate decimal.exponent.toNat '0') ['0']
      decimal where
  whole_ne_nil := List.append_ne_nil_of_left_ne_nil (Decimal.digits_ne_nil _) _
  whole_isDigit := by
    intro c member
    rcases List.mem_append.mp member with inDigits | inZeros
    · exact Decimal.isDigit_of_mem_digits inDigits
    · exact Decimal.isDigit_of_mem_zeros inZeros
  fraction_ne_nil := List.cons_ne_nil _ _
  fraction_isDigit := by simp
  nearest := by
    have noPlaces : (-decimal.exponent).toNat = 0 := by omega
    have digits : Decimal.ofDigits (Decimal.digits decimal.coefficient ++
        List.replicate decimal.exponent.toNat '0' ++ ['0']) = 10 * decimal.numerator := by
      rw [← List.replicate_one, Decimal.ofDigits_append_zeros, Decimal.ofDigits_append_zeros,
        Decimal.ofDigits_digits, Nat.mul_comm (Nat.pow 10 decimal.exponent.toNat)]
      rfl
    have denominator : decimal.denominator = 1 := by rw [Decimal.denominator, noPlaces]
    rw [digits]
    apply Binary64.ofDecimal_eq_of_factor (Nat.succ_pos 9)
    · exact Nat.mul_one _
    · rw [denominator]
      rfl

/-- A fraction takes the last digits, after zeros have been put before them if they are too few. -/
theorem readsAs_pointed
    {decimal : Decimal}
    (hasFraction : decimal.exponent < 0)
    {padded : List Char}
    (isPadded : padded = List.replicate ((-decimal.exponent).toNat + 1 -
      (Decimal.digits decimal.coefficient).length) '0' ++ Decimal.digits decimal.coefficient) :
    ReadsAs (padded.take (padded.length - (-decimal.exponent).toNat))
      (padded.drop (padded.length - (-decimal.exponent).toNat)) decimal := by
  have long : (-decimal.exponent).toNat < padded.length := by
    rw [isPadded, List.length_append, List.length_replicate]
    omega
  have allDigits : ∀ c ∈ padded, c.isDigit := by
    rw [isPadded]
    intro c member
    rcases List.mem_append.mp member with inZeros | inDigits
    · exact Decimal.isDigit_of_mem_zeros inZeros
    · exact Decimal.isDigit_of_mem_digits inDigits
  have places : (padded.drop (padded.length - (-decimal.exponent).toNat)).length =
      (-decimal.exponent).toNat := by
    rw [List.length_drop]
    omega
  exact {
    whole_ne_nil := List.ne_nil_of_length_pos (by rw [List.length_take]; omega)
    whole_isDigit := fun c member => allDigits c (List.mem_of_mem_take member)
    fraction_ne_nil := List.ne_nil_of_length_pos (by omega)
    fraction_isDigit := fun c member => allDigits c (List.mem_of_mem_drop member)
    nearest := by
      have exponent : -((-decimal.exponent).toNat : Int) = decimal.exponent := by omega
      rw [places, exponent, List.take_append_drop, isPadded, Decimal.ofDigits_zeros_append,
        Decimal.ofDigits_digits] }

/-- A numeral that is written positionally is read back from the digits around its point. -/
theorem exists_readsAs (decimal : Decimal) :
    ∃ whole fraction, positional decimal = whole ++ '.' :: fraction ∧
      ReadsAs whole fraction decimal := by
  unfold positional
  split
  · rename_i noFraction
    exact ⟨_, _, rfl, readsAs_whole noFraction⟩
  · rename_i hasFraction
    exact ⟨_, _, rfl, readsAs_pointed (Int.not_le.mp hasFraction) rfl⟩

private theorem mem_positional {decimal : Decimal} {c : Char} (member : c ∈ positional decimal) :
    c.isDigit ∨ c = '.' := by
  obtain ⟨whole, fraction, isText, reads⟩ := exists_readsAs decimal
  rw [isText, List.mem_append, List.mem_cons] at member
  rcases member with inWhole | isPoint | inFraction
  · exact .inl (reads.whole_isDigit c inWhole)
  · exact .inr isPoint
  · exact .inl (reads.fraction_isDigit c inFraction)

/-- Numerals with the same digits around the point have the same nearest magnitude. -/
theorem ofDecimal_eq_of_positional
    {left right : Decimal}
    (same : positional left = positional right) :
    Binary64.ofDecimal left = Binary64.ofDecimal right := by
  obtain ⟨whole, fraction, leftText, leftReads⟩ := exists_readsAs left
  obtain ⟨otherWhole, otherFraction, rightText, rightReads⟩ := exists_readsAs right
  rw [leftText, rightText, List.append_cons_inj_of_notMem
    (Decimal.notMem_of_allDigits leftReads.whole_isDigit rfl)
    (Decimal.notMem_of_allDigits leftReads.fraction_isDigit rfl)] at same
  obtain ⟨rfl, -, rfl⟩ := same
  rw [← leftReads.nearest, rightReads.nearest]

/-! ### Digits before an exponent -/

/-- The digits of a numeral with a point behind the first one, if there are others. -/
def mantissa (digits : List Char) : List Char :=
  if digits.length ≤ 1 then digits else digits.take 1 ++ '.' :: digits.drop 1

def exponentText (exponent : Int) : List Char :=
  (if exponent < 0 then '-' else '+') :: exponentDigits 2 exponent.natAbs

private theorem scientific_eq (decimal : Decimal) :
    Number.realFormat.scientific decimal =
      mantissa (Decimal.digits decimal.coefficient) ++ 'e' ::
        exponentText (decimal.exponent + (Decimal.digits decimal.coefficient).length - 1) := by
  simp only [scientific, mantissa, exponentText]
  split <;> split <;> simp [Number.realFormat]

private theorem mem_mantissa {digits : List Char} {c : Char} (member : c ∈ mantissa digits) :
    c ∈ digits ∨ c = '.' := by
  unfold mantissa at member
  split at member
  · exact .inl member
  · rw [List.mem_append, List.mem_cons] at member
    rcases member with inFirst | isPoint | inOthers
    · exact .inl (List.mem_of_mem_take inFirst)
    · exact .inr isPoint
    · exact .inl (List.mem_of_mem_drop inOthers)

/-- Without the point, the digits stand as they were. -/
theorem filter_mantissa {digits : List Char} (noPoint : '.' ∉ digits) :
    (mantissa digits).filter (· ≠ '.') = digits := by
  have keep {part : List Char} (sub : part ⊆ digits) : part.filter (· ≠ '.') = part := by
    rw [List.filter_eq_self]
    intro c member
    simpa using fun isPoint : c = '.' => noPoint (isPoint ▸ sub member)
  unfold mantissa
  split
  · exact keep (List.Subset.refl _)
  · rw [List.filter_append, List.filter_cons_of_neg (by simp), keep (List.take_subset _ _),
      keep (List.drop_subset _ _), List.take_append_drop]

private theorem head?_mantissa (digits : List Char) : (mantissa digits).head? = digits.head? := by
  unfold mantissa
  split
  · rfl
  · rename_i several
    obtain ⟨first, rest, rfl⟩ := List.exists_cons_of_length_pos (by omega : 0 < digits.length)
    rfl

private theorem mantissa_ne_nil {digits : List Char} (nonempty : digits ≠ []) :
    mantissa digits ≠ [] := by
  unfold mantissa
  split
  · exact nonempty
  · simp

private theorem ofDigits_exponentDigits (width exponent : Nat) :
    Decimal.ofDigits (exponentDigits width exponent) = exponent := by
  rw [exponentDigits, Decimal.ofDigits_zeros_append, Decimal.ofDigits_digits]

private theorem isDigit_of_mem_exponentDigits
    {width exponent : Nat}
    {c : Char}
    (member : c ∈ exponentDigits width exponent) :
    c.isDigit := by
  rcases List.mem_append.mp member with inZeros | inDigits
  · exact Decimal.isDigit_of_mem_zeros inZeros
  · exact Decimal.isDigit_of_mem_digits inDigits

private theorem le_length_exponentDigits (width exponent : Nat) :
    width ≤ (exponentDigits width exponent).length := by
  rw [exponentDigits, List.length_append, List.length_replicate]
  omega

/-- Texts that end in an exponent: its mark, a sign, and at least two digits. -/
def EndsInExponent (text : List Char) : Prop :=
  ∃ front sign digits, text = front ++ 'e' :: sign :: digits ∧ (sign = '+' ∨ sign = '-') ∧
    2 ≤ digits.length ∧ ∀ c ∈ digits, c.isDigit

private theorem EndsInExponent.append_left
    {text : List Char}
    (ends : EndsInExponent text)
    (before : List Char) :
    EndsInExponent (before ++ text) := by
  obtain ⟨front, sign, digits, rfl, isExponent⟩ := ends
  exact ⟨before ++ front, sign, digits, (List.append_assoc _ _ _).symm, isExponent⟩

private theorem scientific_endsInExponent (decimal : Decimal) :
    EndsInExponent (Number.realFormat.scientific decimal) := by
  refine ⟨_, _, _, scientific_eq decimal, ?_, le_length_exponentDigits 2 _, ?_⟩
  · split
    · exact .inr rfl
    · exact .inl rfl
  · exact fun c => isDigit_of_mem_exponentDigits

private theorem exponentText_injective : Function.Injective exponentText := by
  intro left right same
  obtain ⟨sameSign, sameDigits⟩ := List.cons.inj same
  have sameMagnitude : left.natAbs = right.natAbs := by
    rw [← ofDigits_exponentDigits 2 left.natAbs, sameDigits, ofDigits_exponentDigits]
  by_cases leftNegative : left < 0 <;> by_cases rightNegative : right < 0
  · omega
  · simp [leftNegative, rightNegative] at sameSign
  · simp [leftNegative, rightNegative] at sameSign
  · omega

private theorem mem_scientific
    {decimal : Decimal}
    {c : Char}
    (member : c ∈ Number.realFormat.scientific decimal) :
    c.isDigit ∨ c ∈ ['.', 'e', '-', '+'] := by
  rw [scientific_eq, List.mem_append, List.mem_cons, exponentText, List.mem_cons] at member
  rcases member with inMantissa | isMark | isSign | inExponent
  · rcases mem_mantissa inMantissa with inDigits | isPoint
    · exact .inl (Decimal.isDigit_of_mem_digits inDigits)
    · simp [isPoint]
  · simp [isMark]
  · split at isSign <;> simp [isSign]
  · exact .inl (isDigit_of_mem_exponentDigits inExponent)

/-- The exponent mark stands in no other place, so the text falls into the digits and the exponent. -/
theorem scientific_injective : Function.Injective Number.realFormat.scientific := by
  intro left right same
  have noMarkBefore : 'e' ∉ mantissa (Decimal.digits left.coefficient) := by
    intro member
    rcases mem_mantissa member with inDigits | isPoint
    · exact Decimal.ne_of_mem_digits inDigits rfl rfl
    · cases isPoint
  have noMarkBehind (exponent : Int) : 'e' ∉ exponentText exponent := by
    intro member
    rcases List.mem_cons.mp member with isSign | inDigits
    · split at isSign <;> cases isSign
    · exact absurd (isDigit_of_mem_exponentDigits inDigits) (by decide)
  rw [scientific_eq, scientific_eq,
    List.append_cons_inj_of_notMem noMarkBefore (noMarkBehind _)] at same
  obtain ⟨sameMantissa, -, sameExponent⟩ := same
  have noPoint (n : Nat) : '.' ∉ Decimal.digits n :=
    fun member => Decimal.ne_of_mem_digits member rfl rfl
  have sameDigits : Decimal.digits left.coefficient = Decimal.digits right.coefficient := by
    rw [← filter_mantissa (noPoint left.coefficient), sameMantissa, filter_mantissa (noPoint _)]
  have sameCoefficient : left.coefficient = right.coefficient := by
    rw [← Decimal.ofDigits_digits left.coefficient, sameDigits, Decimal.ofDigits_digits]
  have sameLeading := exponentText_injective sameExponent
  rw [sameDigits] at sameLeading
  have sameExponents : left.exponent = right.exponent := by omega
  cases left
  cases right
  simp only at sameCoefficient sameExponents
  rw [sameCoefficient, sameExponents]

/-! ### Reals -/

/-- The infinities and not-a-number are in no range. -/
theorem isPositional_of_infinity_le
    {real : Float}
    (special : Binary64.infinity ≤ Binary64.magnitude real) :
    isPositional real = false := by
  have zero : (real == 0.0) = ((unpack Format.binary64 (Binary64.pattern real)).compare
      (.zero .positive) == some .eq) := rfl
  have size : real.abs = ⟨.pack (unpack Format.binary64 (Binary64.pattern real)).abs⟩ := rfl
  rw [isPositional, zero, size, Binary64.unpack_of_infinity_le real special]
  by_cases infinite : Binary64.magnitude real = Binary64.infinity
  · rw [if_pos infinite]
    cases Sign.ofBitVec (unpackSign (Binary64.pattern real)) <;> decide
  · rw [if_neg infinite]
    decide

theorem not_special_of_isPositional {real : Float} (inRange : isPositional real = true) :
    real.isInf = false ∧ real.isNaN = false := by
  apply Binary64.not_special_of_lt_infinity
  by_contra special
  rw [isPositional_of_infinity_le (Nat.not_lt.mp special)] at inRange
  cases inRange

section Magnitude

variable {real : Float}

private theorem magnitudeText_infinite (infinite : real.isInf = true) :
    Number.realFormat.magnitudeText real = "inf".toList :=
  if_pos infinite

private theorem magnitudeText_positional
    (finite : real.isInf = false)
    (inRange : isPositional real = true) :
    Number.realFormat.magnitudeText real =
      positional (Binary64.shortest (Binary64.magnitude real)) := by
  simp only [magnitudeText, finite, inRange, Bool.false_eq_true, if_false, if_true]

private theorem magnitudeText_scientific
    (finite : real.isInf = false)
    (outOfRange : isPositional real = false) :
    Number.realFormat.magnitudeText real =
      Number.realFormat.scientific (Binary64.shortest (Binary64.magnitude real)) := by
  simp only [magnitudeText, finite, outOfRange, Bool.false_eq_true, if_false]

private theorem mem_magnitudeText {c : Char} (member : c ∈ Number.realFormat.magnitudeText real) :
    c.isDigit ∨ c ∈ "inf.e-+".toList := by
  cases infinite : real.isInf with
  | true =>
      rw [magnitudeText_infinite infinite] at member
      have letters : "inf".toList ⊆ "inf.e-+".toList := by decide
      exact .inr (letters member)
  | false =>
      cases inRange : isPositional real with
      | true =>
          rw [magnitudeText_positional infinite inRange] at member
          exact (mem_positional member).imp_right fun isPoint => by rw [isPoint]; decide
      | false =>
          rw [magnitudeText_scientific infinite inRange] at member
          have marks : ['.', 'e', '-', '+'] ⊆ "inf.e-+".toList := by decide
          exact (mem_scientific member).imp_right fun isMark => marks isMark

/-- The letter `i` marks the infinities. -/
theorem letterI_mem_magnitudeText_iff :
    'i' ∈ Number.realFormat.magnitudeText real ↔ real.isInf = true := by
  cases infinite : real.isInf with
  | true => simp [magnitudeText_infinite infinite]
  | false =>
      refine iff_of_false ?_ Bool.false_ne_true
      intro member
      cases inRange : isPositional real with
      | true =>
          rw [magnitudeText_positional infinite inRange] at member
          exact absurd (mem_positional member) (by decide)
      | false =>
          rw [magnitudeText_scientific infinite inRange] at member
          exact absurd (mem_scientific member) (by decide)

/-- Among finite reals, the letter `e` marks the exponent layout. -/
theorem letterE_mem_magnitudeText_iff (finite : real.isInf = false) :
    'e' ∈ Number.realFormat.magnitudeText real ↔ isPositional real = false := by
  cases inRange : isPositional real with
  | true =>
      rw [magnitudeText_positional finite inRange]
      exact iff_of_false (fun member => absurd (mem_positional member) (by decide)) (by decide)
  | false => simp [magnitudeText_scientific finite inRange, scientific_eq]

/-- No magnitude opens with a minus sign: it starts with a digit or with a letter. -/
theorem minus_not_opens_magnitudeText :
    (Number.realFormat.magnitudeText real).head? ≠ some '-' := by
  have noDigit {text : List Char} (allDigits : ∀ c ∈ text, c.isDigit) : text.head? ≠ some '-' :=
    fun opens => absurd (allDigits '-' (List.mem_of_mem_head? opens)) (by decide)
  cases infinite : real.isInf with
  | true =>
      rw [magnitudeText_infinite infinite]
      decide
  | false =>
      cases inRange : isPositional real with
      | true =>
          obtain ⟨whole, fraction, isText, reads⟩ :=
            exists_readsAs (Binary64.shortest (Binary64.magnitude real))
          rw [magnitudeText_positional infinite inRange, isText,
            List.head?_append_of_ne_nil _ reads.whole_ne_nil]
          exact noDigit reads.whole_isDigit
      | false =>
          rw [magnitudeText_scientific infinite inRange, scientific_eq,
            List.head?_append_of_ne_nil _ (mantissa_ne_nil (Decimal.digits_ne_nil _)),
            head?_mantissa]
          exact noDigit fun c => Decimal.isDigit_of_mem_digits

end Magnitude

private theorem magnitude_eq_of_magnitudeText
    {left right : Float}
    (leftNumber : left.isNaN = false)
    (rightNumber : right.isNaN = false)
    (same : Number.realFormat.magnitudeText left = Number.realFormat.magnitudeText right) :
    Binary64.magnitude left = Binary64.magnitude right := by
  have sameInf : left.isInf = right.isInf := by
    rw [Bool.eq_iff_iff, ← letterI_mem_magnitudeText_iff, same, letterI_mem_magnitudeText_iff]
  cases rightInfinite : right.isInf with
  | true =>
      have leftInfinite := sameInf.trans rightInfinite
      rw [(Binary64.isInf_iff left).mp leftInfinite, (Binary64.isInf_iff right).mp rightInfinite]
  | false =>
      have leftFinite := sameInf.trans rightInfinite
      have readLeft := Binary64.ofDecimal_shortest
        (Binary64.magnitude_lt_infinity left leftNumber leftFinite)
      have readRight := Binary64.ofDecimal_shortest
        (Binary64.magnitude_lt_infinity right rightNumber rightInfinite)
      have sameLayout : isPositional left = false ↔ isPositional right = false := by
        rw [← letterE_mem_magnitudeText_iff leftFinite, same,
          letterE_mem_magnitudeText_iff rightInfinite]
      rw [← readLeft, ← readRight]
      cases outOfRange : isPositional right with
      | true =>
          have inRange : isPositional left = true := by simpa [outOfRange] using sameLayout
          rw [magnitudeText_positional leftFinite inRange,
            magnitudeText_positional rightInfinite outOfRange] at same
          exact ofDecimal_eq_of_positional same
      | false =>
          rw [magnitudeText_scientific leftFinite (sameLayout.mpr outOfRange),
            magnitudeText_scientific rightInfinite outOfRange] at same
          rw [scientific_injective same]

/-- Apart from not-a-number, a real is written as its sign and its magnitude. -/
theorem text_of_isNumber {real : Float} (isNumber : real.isNaN = false) :
    Number.realFormat.text real =
      (if Binary64.isSigned real then ['-'] else []) ++ Number.realFormat.magnitudeText real := by
  simp only [text, isNumber, Bool.false_eq_true, if_false]
  split <;> rfl

/-- The letter `a` marks not-a-number. -/
theorem letterA_mem_text_iff (real : Float) :
    'a' ∈ Number.realFormat.text real ↔ real.isNaN = true := by
  have notInMagnitude : 'a' ∉ Number.realFormat.magnitudeText real := fun member =>
    absurd (mem_magnitudeText member) (by decide)
  unfold text
  cases real.isNaN with
  | true => simp [Number.realFormat]
  | false =>
      cases Binary64.isSigned real <;> simp [notInMagnitude]

/-- A minus sign in front marks the negative numbers. -/
theorem minus_opens_text_iff {real : Float} (isNumber : real.isNaN = false) :
    (Number.realFormat.text real).head? = some '-' ↔ Binary64.isSigned real = true := by
  rw [text_of_isNumber isNumber]
  cases Binary64.isSigned real with
  | true => simp
  | false => simp [minus_not_opens_magnitudeText]

/-- Reals other than not-a-number have texts of their own. -/
theorem eq_of_text
    {left right : Float}
    (leftNumber : left.isNaN = false)
    (rightNumber : right.isNaN = false)
    (same : Number.realFormat.text left = Number.realFormat.text right) :
    left = right := by
  have sameSign : Binary64.isSigned left = Binary64.isSigned right := by
    rw [Bool.eq_iff_iff, ← minus_opens_text_iff leftNumber, same, minus_opens_text_iff rightNumber]
  apply Binary64.eq_of_sign_of_magnitude sameSign
  apply magnitude_eq_of_magnitudeText leftNumber rightNumber
  rw [text_of_isNumber leftNumber, text_of_isNumber rightNumber, sameSign] at same
  exact List.append_cancel_left same

/-- There is only one not-a-number, so the text determines every real. -/
theorem text_injective : Function.Injective Number.realFormat.text := by
  intro left right same
  have sameNaN : left.isNaN = right.isNaN := by
    rw [Bool.eq_iff_iff, ← letterA_mem_text_iff, same, letterA_mem_text_iff]
  cases rightNaN : right.isNaN with
  | true => exact Binary64.eq_of_isNaN (sameNaN.trans rightNaN) rightNaN
  | false => exact eq_of_text (sameNaN.trans rightNaN) rightNaN same

/-- In the positional range a real is written as a sign and digits around a point, which are read as
its shortest numeral. -/
theorem exists_text_of_isPositional {real : Float} (inRange : isPositional real = true) :
    ∃ whole fraction,
      Number.realFormat.text real =
        (if Binary64.isSigned real then ['-'] else []) ++ whole ++ '.' :: fraction ∧
      ReadsAs whole fraction (Binary64.shortest (Binary64.magnitude real)) := by
  obtain ⟨finite, isNumber⟩ := not_special_of_isPositional inRange
  obtain ⟨whole, fraction, isText, reads⟩ :=
    exists_readsAs (Binary64.shortest (Binary64.magnitude real))
  refine ⟨whole, fraction, ?_, reads⟩
  rw [text_of_isNumber isNumber, magnitudeText_positional finite inRange, isText, List.append_assoc]

/-- Outside of the positional range the text of a real has a letter. -/
theorem exists_letter_mem_text {real : Float} (outOfRange : isPositional real = false) :
    ∃ letter ∈ ['a', 'e', 'i'], letter ∈ Number.realFormat.text real := by
  cases isNaN : real.isNaN with
  | true => exact ⟨'a', by decide, (letterA_mem_text_iff real).mpr isNaN⟩
  | false =>
      rw [text_of_isNumber isNaN]
      cases infinite : real.isInf with
      | true =>
          have marked := letterI_mem_magnitudeText_iff.mpr infinite
          exact ⟨'i', by decide, List.mem_append_right _ marked⟩
      | false =>
          have marked := (letterE_mem_magnitudeText_iff infinite).mpr outOfRange
          exact ⟨'e', by decide, List.mem_append_right _ marked⟩

/-- Every real has a character that no integer has. -/
theorem exists_mark_mem_text (real : Float) :
    ∃ c ∈ Number.realFormat.text real, c.isDigit = false ∧ c ≠ '-' := by
  cases inRange : isPositional real with
  | true =>
      obtain ⟨whole, fraction, isText, -⟩ := exists_text_of_isPositional inRange
      exact ⟨'.', by simp [isText], by decide, by decide⟩
  | false =>
      obtain ⟨letter, isLetter, member⟩ := exists_letter_mem_text inRange
      refine ⟨letter, member, ?_⟩
      simp only [List.mem_cons, List.not_mem_nil, or_false] at isLetter
      rcases isLetter with rfl | rfl | rfl <;> decide

/-- A finite real has a point and no exponent, or it ends in an exponent. -/
theorem text_layout {real : Float} (finite : real.isFinite = true) :
    ('.' ∈ Number.realFormat.text real ∧ 'e' ∉ Number.realFormat.text real) ∨
      EndsInExponent (Number.realFormat.text real) := by
  obtain ⟨notInfinite, isNumber⟩ := Binary64.not_special_of_isFinite finite
  cases inRange : isPositional real with
  | true =>
      obtain ⟨whole, fraction, isText, reads⟩ := exists_text_of_isPositional inRange
      have notWhole : 'e' ∉ whole := Decimal.notMem_of_allDigits reads.whole_isDigit rfl
      have notFraction : 'e' ∉ fraction := Decimal.notMem_of_allDigits reads.fraction_isDigit rfl
      refine .inl ⟨by simp [isText], ?_⟩
      rw [isText]
      cases Binary64.isSigned real <;> simp [notWhole, notFraction]
  | false =>
      rw [text_of_isNumber isNumber, magnitudeText_scientific notInfinite inRange]
      exact .inr ((scientific_endsInExponent _).append_left _)

end RealFormat

/-! ### Numbers -/

private theorem Decimal.mem_signedDigits {n : Int} {c : Char} (member : c ∈ signedDigits n) :
    c.isDigit ∨ c = '-' := by
  unfold signedDigits at member
  split at member
  · rcases List.mem_cons.mp member with isMinus | inDigits
    · exact .inr isMinus
    · exact .inl (isDigit_of_mem_digits inDigits)
  · exact .inl (isDigit_of_mem_digits member)

private theorem Decimal.minus_mem_signedDigits_iff (n : Int) : '-' ∈ signedDigits n ↔ n < 0 := by
  have notInDigits : '-' ∉ digits n.natAbs := fun member => ne_of_mem_digits member rfl rfl
  unfold signedDigits
  split <;> simp [*]

theorem Decimal.signedDigits_injective : Function.Injective signedDigits := by
  intro left right same
  have sameSign : left < 0 ↔ right < 0 := by
    rw [← minus_mem_signedDigits_iff, same, minus_mem_signedDigits_iff]
  have sameMagnitude : left.natAbs = right.natAbs := by
    have sameDigits : digits left.natAbs = digits right.natAbs := by
      by_cases negative : right < 0
      · rw [signedDigits, signedDigits, if_pos negative, if_pos (sameSign.mpr negative)] at same
        exact (List.cons.inj same).2
      · rwa [signedDigits, signedDigits, if_neg negative, if_neg (mt sameSign.mp negative)] at same
    rw [← ofDigits_digits left.natAbs, sameDigits, ofDigits_digits]
  omega

namespace Number

private theorem characters_integer_ne_real (whole : Int64) (value : Float) :
    (integer whole).characters ≠ (real value).characters := by
  intro same
  obtain ⟨c, member, noDigit, noMinus⟩ := RealFormat.exists_mark_mem_text value
  have inInteger : c ∈ (integer whole).characters := by
    rw [same]
    exact member
  rcases Decimal.mem_signedDigits inInteger with isDigit | isMinus
  · rw [isDigit] at noDigit
    cases noDigit
  · exact noMinus isMinus

/-- A real is never written like an integer. -/
theorem text_integer_ne_real (whole : Int64) (value : Float) :
    (integer whole).text ≠ (real value).text := fun same =>
  characters_integer_ne_real whole value (String.ofList_inj.mp same)

/-- Numbers with one text are of one kind, and integers with one text are the same. -/
theorem sameKind_of_text {left right : Number} (same : left.text = right.text) :
    (∃ value, left = .integer value ∧ right = .integer value) ∨
      ∃ leftValue rightValue, left = .real leftValue ∧ right = .real rightValue ∧
        realFormat.text leftValue = realFormat.text rightValue := by
  have sameCharacters : left.characters = right.characters := String.ofList_inj.mp same
  cases left with
  | integer left =>
      cases right with
      | integer right =>
          rw [Int64.toInt_inj.mp (Decimal.signedDigits_injective sameCharacters)]
          exact .inl ⟨right, rfl, rfl⟩
      | real right => exact absurd same (text_integer_ne_real left right)
  | real left =>
      cases right with
      | integer right => exact absurd same.symm (text_integer_ne_real right left)
      | real right => exact .inr ⟨left, right, rfl, rfl, sameCharacters⟩

/-- Different numbers have different texts, and an integer never has the text of a real. -/
theorem text_injective : Function.Injective Number.text := by
  intro left right same
  rcases sameKind_of_text same with ⟨value, rfl, rfl⟩ | ⟨left, right, rfl, rfl, sameText⟩
  · rfl
  · rw [RealFormat.text_injective sameText]

/-- Whether a number is not-a-number, which no integer is. -/
def isNaN : Number → Bool
  | .integer _ => false
  | .real value => value.isNaN

/-- Numbers of one kind, with the same integer or the same bit pattern. -/
def Identical : Number → Number → Prop
  | .integer left, .integer right => left = right
  | .real left, .real right => left.toBits = right.toBits
  | .integer _, .real _ | .real _, .integer _ => False

/-- **Texts are unambiguous.**  Two numbers with one text are of one kind, and they are the same
integer or have the same bit pattern, so that a zero keeps its sign.  No real, special or not, is
written like an integer.  A finite real has a point and no exponent, or else it ends in an exponent
with a sign and at least two digits. -/
theorem text_unambiguous :
    (∀ left right : Number, left.isNaN = false → right.isNaN = false → left.text = right.text →
      left.Identical right) ∧
    (∀ (whole : Int64) (value : Float), (integer whole).text ≠ (real value).text) ∧
    (∀ value : Float, value.isFinite = true →
      ('.' ∈ (real value).text.toList ∧ 'e' ∉ (real value).text.toList) ∨
        RealFormat.EndsInExponent (real value).text.toList) := by
  refine ⟨?_, text_integer_ne_real, ?_⟩
  · intro left right leftNumber rightNumber same
    rcases sameKind_of_text same with ⟨value, rfl, rfl⟩ | ⟨left, right, rfl, rfl, sameText⟩
    · exact rfl
    · exact congrArg Float.toBits (RealFormat.eq_of_text leftNumber rightNumber sameText)
  · intro value finite
    rw [text, String.toList_ofList]
    exact RealFormat.text_layout finite

/-- At the upper end of the positional range a real and an integer have one value and two texts. -/
theorem text_unambiguous_upperEnd :
    let whole : Int64 := 10000000000000000
    let value : Float := 1e16
    let promoted := (integer whole).toReal
    (integer whole).text = "10000000000000000" ∧ (real value).text = "1e+16" ∧
    (real value).isNaN = false ∧ (real promoted).isNaN = false ∧
    (real value).text = (real promoted).text ∧ (real value).Identical (real promoted) ∧
    (integer whole).text ≠ (real value).text ∧
    value.isFinite = true ∧
    (('.' ∈ (real value).text.toList ∧ 'e' ∉ (real value).text.toList) ∨
      RealFormat.EndsInExponent (real value).text.toList) := by
  intro whole value promoted
  have isNumber : (real value).isNaN = false := by decide
  have promotedNumber : (real promoted).isNaN = false := by decide +kernel
  have same : (real value).text = (real promoted).text := by decide +kernel
  have finite : value.isFinite = true := by decide
  obtain ⟨identical, differ, layout⟩ := text_unambiguous
  exact ⟨by decide +kernel, by decide +kernel, isNumber, promotedNumber, same,
    identical _ _ isNumber promotedNumber same, differ whole value, finite, layout value finite⟩

private theorem mem_characters {number : Number} {c : Char} (member : c ∈ number.characters) :
    c.isDigit ∨ c ∈ "nainf.e-+".toList := by
  cases number with
  | integer value =>
      exact (Decimal.mem_signedDigits member).imp_right fun isMinus => by rw [isMinus]; decide
  | real value =>
      have marks : "inf.e-+".toList ⊆ "nainf.e-+".toList := by decide
      simp only [characters, RealFormat.text] at member
      split at member
      · have letters : "nan".toList ⊆ "nainf.e-+".toList := by decide
        exact .inr (letters member)
      · split at member
        · rcases List.mem_cons.mp member with isMinus | inMagnitude
          · exact .inr (by rw [isMinus]; decide)
          · exact (RealFormat.mem_magnitudeText inMagnitude).imp_right fun isMark => marks isMark
        · exact (RealFormat.mem_magnitudeText member).imp_right fun isMark => marks isMark

theorem text_ne_empty (number : Number) : number.text ≠ "" := by
  have nonempty : number.characters ≠ [] := by
    cases number with
    | integer value =>
        have someDigit := Decimal.digits_ne_nil value.toInt.natAbs
        simp only [characters, Decimal.signedDigits]
        split
        · simp
        · exact someDigit
    | real value =>
        obtain ⟨c, member, -⟩ := RealFormat.exists_mark_mem_text value
        exact List.ne_nil_of_mem member
  intro empty
  have noCharacters := congrArg String.toList empty
  rw [text, String.toList_ofList] at noCharacters
  exact nonempty noCharacters

end Number

theorem newline_notMem_text (number : Number) : '\n' ∉ number.text.toList := by
  rw [Number.text, String.toList_ofList]
  intro member
  exact absurd (Number.mem_characters member) (by decide)

end Reckoner
