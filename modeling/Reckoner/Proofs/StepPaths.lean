import Reckoner.Proofs.IntegerSteps
import Reckoner.Proofs.Zeros

/-!
Contract: a step goes along one of several paths, and `apply` has the result of that path.

A quotient or a remainder by zero is refused at once.  Two integers then try the path on integers.
There a remainder is the truncated one, moved by the divisor if the two have different signs, and a
power is computed up to exponents of 32 bits, while beyond them only the powers of `0`, `1` and `-1`
are kept.  What has no result there goes along the path on reals.  A negative power of zero is
refused on that path only, when both operands have become reals.

Owns: the paths of a step.

Does not own: the results of a step.
-/

namespace Reckoner.Number

/-! ### Remainders -/

/-- The truncated remainder, unless the divisor is zero or the quotient does not fit. -/
def checkedRemainder? (left right : Int64) : Option Int64 :=
  if right = 0 ∨ left = Int64.minValue ∧ right = -1 then none else some (left % right)

/-- A remainder moved to the side of zero on which the divisor is. -/
def besideDivisor (rest divisor : Int64) : Int64 :=
  if rest ≠ 0 ∧ decide (rest < 0) ≠ decide (divisor < 0) then rest + divisor else rest

/-- The sum of a negative and a nonnegative integer is not wrapped. -/
private theorem toInt_add_of_signs
    {left right : Int64}
    (signs : decide (left < 0) ≠ decide (right < 0)) :
    (left + right).toInt = left.toInt + right.toInt := by
  have leftFits := fits_toInt left
  have rightFits := fits_toInt right
  have bound : Int.pow 2 63 = 9223372036854775808 := rfl
  have zero : (0 : Int64).toInt = 0 := rfl
  rw [Fits, bound] at leftFits rightFits
  simp only [Int64.lt_iff_toInt_lt, zero, ne_eq, decide_eq_decide] at signs
  rw [Int64.toInt_add]
  apply Int.bmod_eq_of_le <;> omega

/-- Moving a truncated remainder to the side of the divisor makes it the floored one. -/
theorem isFlooredRemainder_besideDivisor
    (left : Int64)
    {right : Int64}
    (nonzero : right.toInt ≠ 0) :
    IsFlooredRemainder left.toInt right.toInt (besideDivisor (left % right) right).toInt := by
  have zero : (0 : Int64).toInt = 0 := rfl
  have rest : (left % right).toInt = left.toInt.tmod right.toInt := Int64.toInt_mod left right
  have divides : right.toInt ∣ left.toInt - (left % right).toInt :=
    Int.dvd_self_sub_of_tmod_eq rest.symm
  have small : (left % right).toInt.natAbs < right.toInt.natAbs := by
    rw [rest, Int.natAbs_tmod]
    exact Nat.mod_lt _ (by omega)
  unfold besideDivisor
  by_cases moved : left % right ≠ 0 ∧ decide (left % right < 0) ≠ decide (right < 0)
  · rw [if_pos moved, toInt_add_of_signs moved.2]
    simp only [Int64.lt_iff_toInt_lt, zero, ne_eq, decide_eq_decide, ← Int64.toInt_inj] at moved
    refine ⟨?_, by omega, by omega⟩
    have difference : left.toInt - ((left % right).toInt + right.toInt) =
        left.toInt - (left % right).toInt - right.toInt := by omega
    rw [difference]
    exact Int.dvd_sub divides (Int.dvd_refl _)
  · rw [if_neg moved]
    simp only [Int64.lt_iff_toInt_lt, zero, ne_eq, decide_eq_decide, ← Int64.toInt_inj] at moved
    exact ⟨divides, by omega, by omega⟩

/-- The remainder on the path of integers is the checked one, moved to the side of the divisor. -/
theorem integerStep?_mod_eq (left : Int64) {right : Int64} (nonzero : right ≠ 0) :
    integerStep? .mod left right =
      (checkedRemainder? left right).map (besideDivisor · right) := by
  have divisorNonzero : right.toInt ≠ 0 := fun zero => nonzero (Int64.toInt_inj.mp zero)
  have quotientFits := fits_tdiv_iff (fits_toInt left) right.toInt
  by_cases exceptional : left = Int64.minValue ∧ right = -1
  · obtain ⟨rfl, rfl⟩ := exceptional
    decide
  · rw [checkedRemainder?, if_neg (by simp [nonzero, exceptional]), Option.map_some]
    apply integerStep?_mod
    · rw [quotientFits]
      rintro ⟨isLeast, isMinusOne⟩
      exact exceptional ⟨Int64.toInt_inj.mp isLeast, Int64.toInt_inj.mp isMinusOne⟩
    · exact (isFlooredRemainder_iff divisorNonzero _ _).mp
        (isFlooredRemainder_besideDivisor left divisorNonzero)

/-! ### Powers -/

/-- A power by the size of its exponent.  Beyond 32 bits the base decides. -/
def checkedPower? (left right : Int64) : Option Int64 :=
  if right < 0 then none
  else if right.toInt < Int.pow 2 32 then ofInt? (Int.pow left.toInt right.toInt.toNat)
  else if left = 0 ∨ left = 1 then some left
  else if left = -1 then some (if right % 2 = 0 then 1 else -1)
  else none

/-- Beyond 64, an exponent counts by its parity. -/
private theorem boundedExponent_cases {exponent : Nat} (long : 64 ≤ exponent) :
    exponent % 2 = 0 ∧ boundedExponent exponent = 64 ∨
      exponent % 2 = 1 ∧ boundedExponent exponent = 65 := by
  rw [boundedExponent, if_neg (Nat.not_lt.mpr long)]
  omega

private theorem mod_two_eq_zero_iff {exponent : Int64} (nonnegative : 0 ≤ exponent.toInt) :
    exponent % 2 = 0 ↔ exponent.toInt.toNat % 2 = 0 := by
  have two : (2 : Int64).toInt = 2 := rfl
  have zero : (0 : Int64).toInt = 0 := rfl
  rw [← Int64.toInt_inj, Int64.toInt_mod, two, zero, Int.tmod_eq_emod_of_nonneg nonnegative]
  omega

/-- The base decides a power with a long exponent. -/
private theorem ofInt?_pow_of_long (left : Int64) {right : Int64} (long : 64 ≤ right.toInt) :
    ofInt? (Int.pow left.toInt (boundedExponent right.toInt.toNat)) =
      if left = 0 ∨ left = 1 then some left
      else if left = -1 then some (if right % 2 = 0 then 1 else -1)
      else none := by
  have longNat : 64 ≤ right.toInt.toNat := by omega
  have nonnegative : 0 ≤ right.toInt := by omega
  have even := mod_two_eq_zero_iff nonnegative
  have parity := boundedExponent_cases longNat
  by_cases unit : left = 0 ∨ left = 1
  · rw [if_pos unit]
    rcases unit with rfl | rfl <;> rcases parity with ⟨-, cut⟩ | ⟨-, cut⟩ <;> rw [cut] <;> rfl
  · rw [if_neg unit]
    by_cases minusOne : left = -1
    · rw [if_pos minusOne, minusOne]
      rcases parity with ⟨isEven, cut⟩ | ⟨isOdd, cut⟩
      · rw [cut, if_pos (even.mpr isEven)]
        rfl
      · rw [cut, if_neg (by rw [even, isOdd]; decide)]
        rfl
    · have large : 2 ≤ left.toInt.natAbs := by
        have notZero : left.toInt ≠ 0 := fun same => unit (.inl (Int64.toInt_inj.mp same))
        have notOne : left.toInt ≠ 1 := fun same => unit (.inr (Int64.toInt_inj.mp same))
        have notMinusOne : left.toInt ≠ -1 := fun same => minusOne (Int64.toInt_inj.mp same)
        omega
      rw [if_neg minusOne, ofInt?_pow_boundedExponent,
        ofInt?_of_not_fits (not_fits_pow large longNat)]

/-- Cutting an exponent down gives the same powers as treating long exponents by the base. -/
theorem integerStep?_pow_eq (left right : Int64) :
    integerStep? .pow left right = checkedPower? left right := by
  have bound : Int.pow 2 32 = 4294967296 := rfl
  unfold checkedPower?
  rw [integerStep?]
  by_cases negative : right < 0
  · rw [if_pos negative, if_pos negative]
  · rw [if_neg negative, if_neg negative]
    by_cases short : right.toInt < Int.pow 2 32
    · rw [if_pos short, ofInt?_pow_boundedExponent]
    · rw [if_neg short, ofInt?_pow_of_long left (by omega)]

/-! ### The order of the paths -/

/-- The result of a step on the path of integers. -/
def integerPath? (operator : Operator) : Number → Number → Option Int64
  | .integer left, .integer right =>
      match operator with
      | .fold .mod => (checkedRemainder? left right).map (besideDivisor · right)
      | .fold .pow => checkedPower? left right
      | .fold step => integerStep? step left right
      | .function _ => none
  | _, _ => none

/-- The result of a step on the path of reals. -/
def realPath (operator : Operator) (left right : Float) (line : Nat) : Except EvalError Float :=
  match operator with
  | .fold .pow =>
      if (left == 0.0) = true ∧ right < 0.0 then .error (.divisionByZero line)
      else .ok (left.pow right)
  | .fold step => .ok (realStep step left right)
  | .function _ => .error (.invalidOperand operator .notFolding line)

/-- A step along its paths: zero divisors are refused first, then integers are tried, then reals. -/
def applyByPaths (left : Number) (operator : Operator) (right : Number) (line : Nat) :
    Except EvalError Number :=
  if (operator = .fold .div ∨ operator = .fold .mod) ∧ right.isZero then
    .error (.divisionByZero line)
  else
    match integerPath? operator left right with
    | some result => .ok (.integer result)
    | none => (realPath operator left.toReal right.toReal line).map .real

/-- The path on integers leads to the exact result, if there is one. -/
private theorem integerPath?_integers
    {step : FoldOperator}
    (left : Int64)
    {right : Int64}
    (allowed : step = .div ∨ step = .mod → (integer right).isZero = false) :
    integerPath? (.fold step) (integer left) (integer right) = integerStep? step left right := by
  cases step with
  | add | sub | mul | div => rfl
  | mod =>
      have nonzero : right ≠ 0 := by simpa [isZero] using allowed (.inr rfl)
      exact (integerStep?_mod_eq left nonzero).symm
  | pow => exact (integerStep?_pow_eq left right).symm

section

variable
  {step : FoldOperator}
  {left right : Number}
  (allowed : step = .div ∨ step = .mod → right.isZero = false)
include allowed

private theorem apply_of_integerPath?
    {result : Int64}
    (found : integerPath? (.fold step) left right = some result)
    (line : Nat) :
    left.apply (.fold step) right line = .ok (.integer result) := by
  cases left with
  | real => cases found
  | integer left =>
      cases right with
      | real => cases found
      | integer right =>
          rw [integerPath?_integers left allowed] at found
          refine apply_of_integerStep? ?_ found line
          cases step with
          | add | sub | mul => rfl
          | div => exact allowed (.inl rfl)
          | mod => exact allowed (.inr rfl)
          | pow =>
              have notNegative : ¬ right < 0 := by
                intro negative
                rw [integerStep?, if_pos negative] at found
                cases found
              simp [dividesByZero, isNegative, notNegative]

private theorem combine_of_no_integerPath?
    (missing : integerPath? (.fold step) left right = none) :
    left.combine step right = .real (realStep step left.toReal right.toReal) := by
  cases left with
  | real => cases right <;> rfl
  | integer left =>
      cases right with
      | real => rfl
      | integer right =>
          rw [integerPath?_integers left allowed] at missing
          simp only [combine, missing]

/-- Converting the operands first does not change whether a power is refused. -/
private theorem realPath_toReal (line : Nat) :
    realPath (.fold step) left.toReal right.toReal line =
      if left.dividesByZero step right then .error (.divisionByZero line)
      else .ok (realStep step left.toReal right.toReal) := by
  cases step with
  | add | sub | mul => rfl
  | div | mod =>
      rw [if_neg (by simp [dividesByZero, allowed])]
      rfl
  | pow =>
      have sameTest : ((left.toReal == 0.0) = true ∧ right.toReal < 0.0) ↔
          left.dividesByZero .pow right = true := by
        rw [toReal_beq_zero_iff, toReal_lt_zero_iff, ← isZero_iff, ← isNegative_iff, dividesByZero,
          Bool.and_eq_true]
      simp only [realPath, sameTest, realStep]

end

/-- **A step has the result of the path that it takes.** -/
theorem apply_eq_applyByPaths (left right : Number) (operator : Operator) (line : Nat) :
    left.apply operator right line = left.applyByPaths operator right line := by
  unfold applyByPaths
  cases operator with
  | function function =>
      rw [if_neg (by simp)]
      cases left <;> cases right <;> rfl
  | fold step =>
      by_cases zeroDivisor :
          (Operator.fold step = .fold .div ∨ Operator.fold step = .fold .mod) ∧ right.isZero = true
      · have divides : left.dividesByZero step right = true := by
          obtain ⟨isDivision, isZero⟩ := zeroDivisor
          rcases isDivision with ⟨⟨⟩⟩ | ⟨⟨⟩⟩ <;> exact isZero
        rw [if_pos zeroDivisor]
        exact if_pos divides
      · have allowed : step = .div ∨ step = .mod → right.isZero = false := by
          simpa using zeroDivisor
        rw [if_neg zeroDivisor]
        cases path : integerPath? (.fold step) left right with
        | some result => exact apply_of_integerPath? allowed path line
        | none =>
            rw [realPath_toReal allowed, apply, combine_of_no_integerPath? allowed path]
            by_cases divides : left.dividesByZero step right = true
            · rw [if_pos divides, if_pos divides]
              rfl
            · rw [if_neg divides, if_neg divides]
              rfl

end Reckoner.Number
