import Reckoner.Number.Arithmetic

/-!
Contract: steps on 64-bit integers, measured against exact arithmetic.

A sum, a difference, a product or a power with a nonnegative exponent is the exact result when that
result fits in 64 bits, and otherwise the step is done on reals.  For powers the exponent is cut
down first, which changes neither whether the power fits nor its value if it does.

A remainder is the floored one.  It always fits, but it is only taken from a quotient that fits, and
one quotient does not: that of the least integer by minus one.

Owns: the range of 64-bit integers, exact results, and floored remainders.

Does not own: steps with a real operand, and quotients.
-/

namespace Reckoner.Number

/-! ### The range of 64-bit integers -/

/-- Whether an integer lies in the range of 64-bit integers. -/
def Fits (value : Int) : Prop :=
  -Int.pow 2 63 ≤ value ∧ value ≤ Int.pow 2 63 - 1

instance (value : Int) : Decidable (Fits value) :=
  inferInstanceAs (Decidable (_ ∧ _))

theorem fits_toInt (number : Int64) : Fits number.toInt :=
  ⟨Int64.minValue_le_toInt number, Int64.toInt_le number⟩

theorem ofInt?_of_not_fits {value : Int} (tooLarge : ¬ Fits value) : ofInt? value = none :=
  if_neg tooLarge

theorem exists_ofInt? {value : Int} (fits : Fits value) : ∃ number, ofInt? value = some number :=
  ⟨Int64.ofInt value, if_pos fits⟩

/-! ### Exact results -/

/-- A step on integers gives the exact result if that fits, and otherwise the promoted one, which
is a real. -/
def ExactOrPromoted
    (operator : FoldOperator)
    (left right : Int64)
    (exact : Int)
    (promoted : Float)
    (line : Nat) :
    Prop :=
  (Fits exact → ∃ result : Int64, result.toInt = exact ∧
    (integer left).apply (.fold operator) (integer right) line = .ok (.integer result)) ∧
  (¬ Fits exact →
    (integer left).apply (.fold operator) (integer right) line = .ok (.real promoted))

section Step

variable {operator : FoldOperator} {left right : Int64}

/-- An exact result on integers is the result of the step. -/
theorem apply_of_integerStep?
    (defined : (integer left).dividesByZero operator (integer right) = false)
    {result : Int64}
    (found : integerStep? operator left right = some result)
    (line : Nat) :
    (integer left).apply (.fold operator) (integer right) line = .ok (.integer result) := by
  simp only [apply, defined, combine, found, Bool.false_eq_true, if_false]

private theorem apply_of_no_integerStep?
    (defined : (integer left).dividesByZero operator (integer right) = false)
    (missing : integerStep? operator left right = none)
    (line : Nat) :
    (integer left).apply (.fold operator) (integer right) line =
      .ok (.real (realStep operator (integer left).toReal (integer right).toReal)) := by
  simp only [apply, defined, combine, missing, Bool.false_eq_true, if_false]

/-- A step that keeps its exact result whenever it fits. -/
theorem exactOrPromoted_of_integerStep?
    (defined : (integer left).dividesByZero operator (integer right) = false)
    {exact : Int}
    (kept : integerStep? operator left right = ofInt? exact)
    (line : Nat) :
    ExactOrPromoted operator left right exact
      (realStep operator (integer left).toReal (integer right).toReal) line := by
  constructor
  · intro fits
    obtain ⟨result, found⟩ := exists_ofInt? fits
    exact ⟨result, (ofInt?_eq_some_iff _ _).mp found,
      apply_of_integerStep? defined (kept.trans found) line⟩
  · intro tooLarge
    exact apply_of_no_integerStep? defined (kept.trans (ofInt?_of_not_fits tooLarge)) line

end Step

/-! ### Powers -/

/-- Beyond the first power, those of `0`, `1` and `-1` only depend on the parity of the exponent. -/
theorem pow_add_two_mul
    {base : Int}
    (small : base.natAbs ≤ 1)
    (exponent count : Nat) :
    Int.pow base (exponent + 1 + 2 * count) = Int.pow base (exponent + 1) := by
  have next (n : Nat) : Int.pow base (n + 1) = Int.pow base n * base := Int.pow_succ base n
  have cube : base * base * base = base := by
    obtain rfl | rfl | rfl : base = 0 ∨ base = 1 ∨ base = -1 := by omega
    all_goals rfl
  induction count with
  | zero => rfl
  | succ count inductionHypothesis =>
      have split : exponent + 1 + 2 * (count + 1) = exponent + 2 * count + 1 + 1 + 1 := by omega
      have before : exponent + 1 + 2 * count = exponent + 2 * count + 1 := by omega
      calc Int.pow base (exponent + 1 + 2 * (count + 1))
          = Int.pow base (exponent + 2 * count) * (base * base * base) := by
            rw [split, next, next, next, Int.mul_assoc, Int.mul_assoc, Int.mul_assoc]
        _ = Int.pow base (exponent + 1 + 2 * count) := by rw [cube, before, next]
        _ = Int.pow base (exponent + 1) := inductionHypothesis

/-- From the exponent 64 on, no other power fits. -/
theorem not_fits_pow
    {base : Int}
    (large : 2 ≤ base.natAbs)
    {exponent : Nat}
    (long : 64 ≤ exponent) :
    ¬ Fits (Int.pow base exponent) := by
  have magnitude : (Int.pow base exponent).natAbs = base.natAbs ^ exponent :=
    Int.natAbs_pow base exponent
  have atLeast : 2 ^ 64 ≤ base.natAbs ^ exponent :=
    calc 2 ^ 64 ≤ 2 ^ exponent := Nat.pow_le_pow_right (by decide) long
      _ ≤ base.natAbs ^ exponent := Nat.pow_le_pow_left large exponent
  have bound : Int.pow 2 63 = 9223372036854775808 := rfl
  rintro ⟨above, below⟩
  omega

/-- Cutting an exponent down changes neither whether the power fits nor its value if it does. -/
theorem ofInt?_pow_boundedExponent (base : Int) (exponent : Nat) :
    ofInt? (Int.pow base (boundedExponent exponent)) = ofInt? (Int.pow base exponent) := by
  unfold boundedExponent
  by_cases short : exponent < 64
  · rw [if_pos short]
  · rw [if_neg short]
    by_cases small : base.natAbs ≤ 1
    · have split : exponent = 63 + exponent % 2 + 1 + 2 * ((exponent - 64) / 2) := by omega
      have samePower : Int.pow base exponent = Int.pow base (64 + exponent % 2) := by
        rw [split, pow_add_two_mul small, ← split, Nat.add_right_comm]
      rw [samePower]
    · have large : 2 ≤ base.natAbs := by omega
      rw [ofInt?_of_not_fits (not_fits_pow large (Nat.le_add_right 64 _)),
        ofInt?_of_not_fits (not_fits_pow large (Nat.not_lt.mp short))]

private theorem exactOrPromoted_pow
    (left : Int64)
    {right : Int64}
    (nonnegative : 0 ≤ right.toInt)
    (line : Nat) :
    ExactOrPromoted .pow left right (Int.pow left.toInt right.toInt.toNat)
      ((integer left).toReal.pow (integer right).toReal) line := by
  have notNegative : ¬ right < 0 := by
    rw [Int64.lt_iff_toInt_lt]
    exact Int.not_lt.mpr nonnegative
  apply exactOrPromoted_of_integerStep?
  · simp [dividesByZero, isNegative, notNegative]
  · rw [integerStep?, if_neg notNegative, ofInt?_pow_boundedExponent]

/-- **Integers are never wrapped.**  Sums, differences, products and powers with a nonnegative
exponent are exact if the exact result is a 64-bit integer.  If it is not, they are the sums,
differences, products and powers of the reals that the integers stand for. -/
theorem integer_steps_exact_or_promoted (left right : Int64) (line : Nat) :
    ExactOrPromoted .add left right (left.toInt + right.toInt)
      ((integer left).toReal + (integer right).toReal) line ∧
    ExactOrPromoted .sub left right (left.toInt - right.toInt)
      ((integer left).toReal - (integer right).toReal) line ∧
    ExactOrPromoted .mul left right (left.toInt * right.toInt)
      ((integer left).toReal * (integer right).toReal) line ∧
    (0 ≤ right.toInt →
      ExactOrPromoted .pow left right (Int.pow left.toInt right.toInt.toNat)
        ((integer left).toReal.pow (integer right).toReal) line) :=
  ⟨exactOrPromoted_of_integerStep? rfl rfl line, exactOrPromoted_of_integerStep? rfl rfl line,
    exactOrPromoted_of_integerStep? rfl rfl line, fun nonnegative =>
      exactOrPromoted_pow left nonnegative line⟩

/-- The least integer is itself a power, and behind the greatest one the sum is that of reals. -/
theorem integer_steps_exact_or_promoted_atBounds :
    (0 ≤ (63 : Int64).toInt ∧ Fits (Int.pow (-2 : Int64).toInt (63 : Int64).toInt.toNat) ∧
      (integer (-2)).apply (.fold .pow) (integer 63) 1 = .ok (.integer Int64.minValue)) ∧
    ¬ Fits (Int64.maxValue.toInt + (1 : Int64).toInt) ∧
      (integer Int64.maxValue).apply (.fold .add) (integer 1) 1 =
        .ok (.real ((integer Int64.maxValue).toReal + (integer 1).toReal)) := by
  have nonnegative : 0 ≤ (63 : Int64).toInt := by decide
  have fits : Fits (Int.pow (-2 : Int64).toInt (63 : Int64).toInt.toNat) := by decide
  have tooLarge : ¬ Fits (Int64.maxValue.toInt + (1 : Int64).toInt) := by decide
  obtain ⟨result, isPower, applied⟩ :=
    ((integer_steps_exact_or_promoted (-2) 63 1).2.2.2 nonnegative).1 fits
  obtain rfl : result = Int64.minValue := Int64.toInt_inj.mp isPower
  have promoted := (integer_steps_exact_or_promoted Int64.maxValue 1 1).1.2 tooLarge
  exact ⟨⟨nonnegative, fits, applied⟩, tooLarge, promoted⟩

/-! ### Remainders -/

/-- A remainder that differs from the dividend by a multiple of the divisor, and lies between zero
and the divisor. -/
structure IsFlooredRemainder (dividend divisor rest : Int) : Prop where
  divides : divisor ∣ dividend - rest
  of_pos : 0 < divisor → 0 ≤ rest ∧ rest < divisor
  of_neg : divisor < 0 → divisor < rest ∧ rest ≤ 0

theorem isFlooredRemainder_fmod (dividend divisor : Int) :
    IsFlooredRemainder dividend divisor (dividend.fmod divisor) where
  divides := Int.dvd_self_sub_of_fmod_eq rfl
  of_pos := fun positive =>
    ⟨Int.fmod_nonneg_of_pos dividend positive, Int.fmod_lt_of_pos dividend positive⟩
  of_neg := by
    intro negative
    have nonnegative : 0 ≤ dividend % divisor := Int.emod_nonneg dividend (Int.ne_of_lt negative)
    have small : dividend % divisor < -divisor := Int.emod_lt_of_neg dividend negative
    rw [Int.fmod_eq_emod]
    by_cases multiple : divisor ∣ dividend
    · rw [if_pos (.inr multiple), Int.emod_eq_zero_of_dvd multiple]
      omega
    · have nonzero : dividend % divisor ≠ 0 := fun zero => multiple (Int.dvd_of_emod_eq_zero zero)
      rw [if_neg (by omega)]
      omega

/-- Two remainders would differ by a multiple of the divisor that is smaller than the divisor. -/
theorem IsFlooredRemainder.unique
    {dividend divisor first second : Int}
    (nonzero : divisor ≠ 0)
    (isFirst : IsFlooredRemainder dividend divisor first)
    (isSecond : IsFlooredRemainder dividend divisor second) :
    first = second := by
  have multiple : divisor ∣ first - second := by
    have difference : first - second = (dividend - second) - (dividend - first) := by omega
    rw [difference]
    exact Int.dvd_sub isSecond.divides isFirst.divides
  have small : (first - second).natAbs < divisor.natAbs := by
    obtain negative | positive : divisor < 0 ∨ 0 < divisor := by omega
    · have firstBounds := isFirst.of_neg negative
      have secondBounds := isSecond.of_neg negative
      omega
    · have firstBounds := isFirst.of_pos positive
      have secondBounds := isSecond.of_pos positive
      omega
  have noDifference := Int.eq_zero_of_dvd_of_natAbs_lt_natAbs multiple small
  omega

/-- There is one floored remainder for each divisor other than zero. -/
theorem isFlooredRemainder_iff {divisor : Int} (nonzero : divisor ≠ 0) (dividend rest : Int) :
    IsFlooredRemainder dividend divisor rest ↔ rest = dividend.fmod divisor := by
  constructor
  · intro isRest
    exact isRest.unique nonzero (isFlooredRemainder_fmod dividend divisor)
  · rintro rfl
    exact isFlooredRemainder_fmod dividend divisor

/-- A remainder lies between zero and the divisor. -/
theorem fits_fmod {divisor : Int} (divisorFits : Fits divisor) (nonzero : divisor ≠ 0)
    (dividend : Int) : Fits (dividend.fmod divisor) := by
  have isRest := isFlooredRemainder_fmod dividend divisor
  have bound : Int.pow 2 63 = 9223372036854775808 := rfl
  rw [Fits, bound] at divisorFits ⊢
  obtain negative | positive : divisor < 0 ∨ 0 < divisor := by omega
  · have restBounds := isRest.of_neg negative
    omega
  · have restBounds := isRest.of_pos positive
    omega

/-- A quotient is at most half as large as the dividend unless the divisor is one or minus one. -/
theorem fits_tdiv_iff {dividend : Int} (dividendFits : Fits dividend) (divisor : Int) :
    Fits (dividend.tdiv divisor) ↔ ¬ (dividend = -Int.pow 2 63 ∧ divisor = -1) := by
  have bound : Int.pow 2 63 = 9223372036854775808 := rfl
  rw [Fits, bound] at dividendFits ⊢
  by_cases minusOne : divisor = -1
  · have quotient : dividend.tdiv (-1) = -dividend := by rw [Int.tdiv_neg, Int.tdiv_one]
    rw [minusOne, quotient]
    omega
  · have fits : -9223372036854775808 ≤ dividend.tdiv divisor ∧
        dividend.tdiv divisor ≤ 9223372036854775808 - 1 := by
      by_cases one : divisor = 1
      · rw [one, Int.tdiv_one]
        exact dividendFits
      · have half : dividend.natAbs / divisor.natAbs ≤ dividend.natAbs / 2 := by
          by_cases zero : divisor = 0
          · simp [zero]
          · exact Nat.div_le_div_left (by omega) (by decide)
        have magnitude : (dividend.tdiv divisor).natAbs = dividend.natAbs / divisor.natAbs :=
          Int.natAbs_tdiv dividend divisor
        omega
    simp only [minusOne, and_false, not_false_eq_true, iff_true]
    exact fits

/-- A remainder is taken only from a quotient that fits. -/
theorem integerStep?_mod
    {left right rest : Int64}
    (quotientFits : Fits (left.toInt.tdiv right.toInt))
    (isRest : rest.toInt = left.toInt.fmod right.toInt) :
    integerStep? .mod left right = some rest := by
  obtain ⟨quotient, found⟩ := exists_ofInt? quotientFits
  rw [integerStep?, found, Option.bind_some]
  exact (ofInt?_eq_some_iff _ _).mpr isRest

/-- The one quotient that does not fit sends the step to the reals, where the remainder is a
negative zero. -/
theorem apply_mod_leastInteger (line : Nat) :
    (integer Int64.minValue).apply (.fold .mod) (integer (-1)) line = .ok (.real (-0.0)) := by
  have negativeZero :
      realStep .mod (integer Int64.minValue).toReal (integer (-1)).toReal = -0.0 := by
    decide +kernel
  rw [apply_of_no_integerStep? (by decide) (by decide), negativeZero]

/-- **Remainders are floored, with one exception.**  For every dividend and every divisor other than
zero there is one floored remainder, and it is a 64-bit integer.  It is the result of the step,
except for the least integer by minus one, where the result is the negative zero of the reals. -/
theorem modulo_floored_iff_quotient_fits
    (left right : Int64)
    (nonzero : right ≠ 0)
    (line : Nat) :
    ∃ rest : Int64,
      (∀ candidate, IsFlooredRemainder left.toInt right.toInt candidate ↔
        candidate = rest.toInt) ∧
      ((integer left).apply (.fold .mod) (integer right) line = .ok (.integer rest) ↔
        ¬ (left = Int64.minValue ∧ right = -1)) ∧
      (left = Int64.minValue ∧ right = -1 →
        (integer left).apply (.fold .mod) (integer right) line = .ok (.real (-0.0))) := by
  have divisorNonzero : right.toInt ≠ 0 := fun zero => nonzero (Int64.toInt_inj.mp zero)
  have defined : (integer left).dividesByZero .mod (integer right) = false := by
    simp [dividesByZero, isZero, nonzero]
  have exceptional : left = Int64.minValue ∧ right = -1 →
      (integer left).apply (.fold .mod) (integer right) line = .ok (.real (-0.0)) := by
    rintro ⟨rfl, rfl⟩
    exact apply_mod_leastInteger line
  obtain ⟨rest, found⟩ := exists_ofInt? (fits_fmod (fits_toInt right) divisorNonzero left.toInt)
  have isRest : rest.toInt = left.toInt.fmod right.toInt := (ofInt?_eq_some_iff _ _).mp found
  refine ⟨rest, ?_, ⟨?_, ?_⟩, exceptional⟩
  · intro candidate
    rw [isRest]
    exact isFlooredRemainder_iff divisorNonzero _ _
  · intro applied isException
    rw [exceptional isException] at applied
    cases applied
  · intro noException
    have quotientFits : Fits (left.toInt.tdiv right.toInt) := by
      rw [fits_tdiv_iff (fits_toInt left)]
      rintro ⟨isLeast, isMinusOne⟩
      exact noException ⟨Int64.toInt_inj.mp isLeast, Int64.toInt_inj.mp isMinusOne⟩
    exact apply_of_integerStep? defined (integerStep?_mod quotientFits isRest) line

theorem modulo_floored_iff_quotient_fits_negative :
    (-1 : Int64) ≠ 0 ∧
      (integer (Int64.minValue + 1)).apply (.fold .mod) (integer (-1)) 1 = .ok (.integer 0) := by
  have nonzero : (-1 : Int64) ≠ 0 := by decide
  obtain ⟨rest, isRest, applied, -⟩ :=
    modulo_floored_iff_quotient_fits (Int64.minValue + 1) (-1) nonzero 1
  obtain rfl : 0 = rest := Int64.toInt_inj.mp ((isRest 0).mp
    ⟨by decide, by decide, by decide⟩)
  exact ⟨nonzero, applied.mpr (by decide)⟩

/-- The least integer has a floored remainder by minus one, and yet the step gives no integer. -/
theorem modulo_leastInteger_not_integer :
    IsFlooredRemainder Int64.minValue.toInt (-1 : Int64).toInt 0 ∧ Fits 0 ∧
      ∀ (line : Nat) (rest : Int64),
        (integer Int64.minValue).apply (.fold .mod) (integer (-1)) line ≠ .ok (.integer rest) := by
  refine ⟨⟨by decide, by decide, by decide⟩, by decide, ?_⟩
  intro line rest
  rw [apply_mod_leastInteger]
  simp

end Reckoner.Number
