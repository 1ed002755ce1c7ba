import Reckoner.Number.Arithmetic
import Reckoner.Proofs.RealBits

/-!
Contract: which numbers are zero, which are negative, and when a step is refused.

The tests against zero are comparisons of reals.  Both zeros pass the one for zero; the one for
negative numbers is passed by the reals with a sign, except the negative zero and not-a-number.  An
integer is tested like the real it stands for, since rounding keeps its sign and makes no zero.

Owns: comparisons with zero as facts about bit patterns, the sign and the magnitude of a real that
was made from both, and the conditions under which a step has no result.

Does not own: the result of a step that has one.
-/

namespace Reckoner

/-! ### Comparisons with zero -/

namespace Binary64

open Float.Model (Format)
open Float.Model.UnpackedFloat
  (Sign unpack unpackExponent unpackMantissa unpackSign)

section Comparison

variable (real : Float)

/-- The sign of a pattern is its first bit. -/
theorem ofBitVec_unpackSign :
    Sign.ofBitVec (unpackSign (pattern real)) = if isSigned real then .negative else .positive := by
  have bound := signBit_eq
  have below : real.toBits.toNat < 18446744073709551616 := real.toBits.toNat_lt
  have bit : (unpackSign (pattern real)).toNat = real.toBits.toNat / signBit := by
    have shifted : (unpackSign (pattern real)).toNat = (real.toBits.toNat >>> 63) % 2 := rfl
    rw [shifted, Nat.shiftRight_eq_div_pow, bound]
    omega
  have unset : unpackSign (pattern real) = 0#1 ↔ ¬ isSigned real = true := by
    rw [← BitVec.toNat_inj, bit, isSigned, decide_eq_true_eq, bound]
    simp
  unfold Sign.ofBitVec
  by_cases signed : isSigned real = true
  · rw [if_neg (fun zero => unset.mp zero signed), if_pos signed]
  · rw [if_pos (unset.mpr signed), if_neg signed]

/-- Which zero a real with an empty exponent and an empty mantissa is does not matter. -/
theorem fields_eq_zero_iff :
    (unpackExponent (pattern real) = 0#_ ∧ unpackMantissa (pattern real) = 0#_) ↔
      magnitude real = 0 := by
  have size := binade_eq
  have noExponent : (0#11).toNat = 0 := rfl
  have noMantissa : (0#52).toNat = 0 := rfl
  rw [← BitVec.toNat_inj, ← BitVec.toNat_inj, toNat_unpackExponent, toNat_unpackMantissa,
    noExponent, noMantissa, size]
  omega

/-- A real that is neither zero nor not-a-number is on the side of zero that its sign says. -/
theorem compare_zero_of_finite (ordinary : magnitude real < infinity) :
    (unpack Format.binary64 (pattern real)).compare (.zero .positive) =
      if magnitude real = 0 then some .eq
      else if isSigned real then some .lt
      else some .gt := by
  have noOnes : unpackExponent (pattern real) ≠ -1#_ := fun ones =>
    Nat.not_le.mpr ordinary ((unpackExponent_eq_ones_iff real).mp ones)
  have sided (mantissa : Nat) (exponent : Int) (positive : 0 < mantissa) :
      (Float.Model.UnpackedFloat.finite (Sign.ofBitVec (unpackSign (pattern real))) mantissa
          exponent positive).compare (.zero .positive) =
        if isSigned real then some .lt else some .gt := by
    rw [ofBitVec_unpackSign]
    cases isSigned real <;> rfl
  unfold unpack
  rw [if_neg noOnes]
  -- Behind an empty exponent only the mantissa tells a zero from a real of the first binade.
  by_cases firstBinade : unpackExponent (pattern real) = 0#_
  · rw [if_pos firstBinade]
    by_cases empty : unpackMantissa (pattern real) = 0#_
    · rw [dif_pos empty, if_pos ((fields_eq_zero_iff real).mp ⟨firstBinade, empty⟩)]
      rfl
    · rw [dif_neg empty, if_neg (fun zero => empty ((fields_eq_zero_iff real).mpr zero).2), sided]
  · rw [if_neg firstBinade, if_neg (fun zero => firstBinade ((fields_eq_zero_iff real).mpr zero).1),
      sided]

/-- The order of a real and zero can be told from its sign and its magnitude. -/
theorem compare_zero :
    (unpack Format.binary64 (pattern real)).compare (.zero .positive) =
      if infinity < magnitude real then none
      else if magnitude real = 0 then some .eq
      else if isSigned real then some .lt
      else some .gt := by
  have start := infinity_eq
  by_cases special : infinity ≤ magnitude real
  · rw [unpack_of_infinity_le real special]
    by_cases infinite : magnitude real = infinity
    · have nonzero : magnitude real ≠ 0 := by omega
      have ordered : ¬ infinity < magnitude real := by omega
      rw [if_pos infinite, if_neg ordered, if_neg nonzero, ofBitVec_unpackSign]
      cases isSigned real <;> rfl
    · have isNaN : infinity < magnitude real := by omega
      rw [if_neg infinite, if_pos isNaN]
      rfl
  · rw [if_neg (by omega), compare_zero_of_finite real (Nat.not_le.mp special)]

/-- Both zeros have the magnitude zero. -/
theorem beq_zero_iff : (real == 0.0) = true ↔ magnitude real = 0 := by
  have compared : (real == 0.0) = ((unpack Format.binary64 (pattern real)).compare
      (.zero .positive) == some .eq) := rfl
  have start := infinity_eq
  rw [compared, compare_zero]
  by_cases zero : magnitude real = 0
  · rw [if_neg (by omega), if_pos zero]
    exact iff_of_true rfl zero
  · rw [if_neg zero]
    refine iff_of_false ?_ zero
    by_cases isNaN : infinity < magnitude real
    · rw [if_pos isNaN]
      decide
    · rw [if_neg isNaN]
      cases isSigned real <;> decide

theorem lt_zero_iff :
    real < 0.0 ↔ isSigned real = true ∧ magnitude real ≠ 0 ∧ magnitude real ≤ infinity := by
  have compared : real < 0.0 ↔ ((unpack Format.binary64 (pattern real)).compare
      (.zero .positive) == some .lt) = true := decide_eq_true_iff
  rw [compared, compare_zero]
  by_cases isNaN : infinity < magnitude real
  · rw [if_pos isNaN]
    exact iff_of_false (by decide) (by omega)
  · rw [if_neg isNaN]
    by_cases zero : magnitude real = 0
    · rw [if_pos zero]
      exact iff_of_false (by decide) (by omega)
    · rw [if_neg zero]
      have bounded : magnitude real ≤ infinity := Nat.not_lt.mp isNaN
      cases signed : isSigned real with
      | false => exact iff_of_false (by decide) (by simp)
      | true => exact iff_of_true (by decide) ⟨rfl, zero, bounded⟩

/-- There are two zeros. -/
theorem magnitude_eq_zero_iff : magnitude real = 0 ↔ real = 0.0 ∨ real = -0.0 := by
  constructor
  · intro zero
    cases signed : isSigned real with
    | false => exact .inl (eq_of_sign_of_magnitude signed zero)
    | true => exact .inr (eq_of_sign_of_magnitude signed zero)
  · rintro (rfl | rfl) <;> decide

end Comparison

/-! ### Reals from a sign and a magnitude -/

/-- Up to the infinities every pattern is that of a real. -/
theorem toBits_ofBits {bits : UInt64} (ordinary : bits.toNat % signBit ≤ infinity) :
    (Float.ofBits bits).toBits = bits := by
  have isNumber : @unpackExponent Format.binary64 bits.toBitVec = -1#_ →
      @unpackMantissa Format.binary64 bits.toBitVec = 0#_ := by
    have start : infinity = 2047 * binade := rfl
    have size := binade_eq
    have allOnes : (-1#11).toNat = 2047 := by decide
    have noMantissa : (0#52).toNat = 0 := rfl
    rw [← BitVec.toNat_inj, ← BitVec.toNat_inj, toNat_unpackExponent_toBitVec,
      toNat_unpackMantissa_toBitVec, allOnes, noMantissa]
    rw [start, size] at ordinary
    rw [size]
    omega
  exact UInt64.toBitVec_inj.mp (pack_unpack_of_number isNumber)

section OfMagnitude

variable {size : Nat} (ordinary : size ≤ infinity) (negative : Bool)
include ordinary

private theorem toNat_toBits_ofMagnitude :
    (ofMagnitude negative size).toBits.toNat = if negative then signBit + size else size := by
  have bound := signBit_eq
  have start := infinity_eq
  rw [start] at ordinary
  have inRange : (if negative then signBit + size else size) < 2 ^ 64 := by
    split <;> omega
  have bits : (UInt64.ofNat (if negative then signBit + size else size)).toNat =
      if negative then signBit + size else size := UInt64.toNat_ofNat_of_lt inRange
  rw [ofMagnitude, toBits_ofBits, bits]
  rw [bits, bound, start]
  split <;> omega

theorem isSigned_ofMagnitude : isSigned (ofMagnitude negative size) = negative := by
  have bound := signBit_eq
  have start := infinity_eq
  rw [isSigned, toNat_toBits_ofMagnitude ordinary]
  cases negative with
  | false =>
      rw [decide_eq_false_iff_not, if_neg Bool.false_ne_true]
      omega
  | true => exact decide_eq_true (Nat.le_add_right _ _)

/-- A magnitude up to that of the infinities is kept. -/
theorem magnitude_ofMagnitude : magnitude (ofMagnitude negative size) = size := by
  have bound := signBit_eq
  have start := infinity_eq
  rw [magnitude, toNat_toBits_ofMagnitude ordinary, bound]
  split <;> omega

end OfMagnitude

/-! ### Integers as reals -/

private theorem nearest_le_infinity (numerator denominator : Nat) :
    nearest numerator denominator ≤ infinity :=
  Nat.min_le_right _ _

private theorem div_le_roundHalfEven (numerator denominator : Nat) :
    numerator / denominator ≤ roundHalfEven numerator denominator := by
  unfold roundHalfEven
  dsimp only
  split
  · exact Nat.le_refl _
  · split
    · exact Nat.le_succ _
    · exact Nat.le_add_right _ _

/-- Rounding makes no zero of a whole number. -/
theorem nearest_one_ne_zero {whole : Nat} (positive : 0 < whole) : nearest whole 1 ≠ 0 := by
  have scaledPositive : whole * unitsPerOne ≠ 0 :=
    Nat.mul_ne_zero (Nat.ne_of_gt positive) (Nat.ne_of_gt unitsPerOne_pos)
  have power : Nat.pow 2 ((whole * unitsPerOne).log2 - 52) ≤ whole * unitsPerOne :=
    calc 2 ^ ((whole * unitsPerOne).log2 - 52)
        ≤ 2 ^ (whole * unitsPerOne).log2 := Nat.pow_le_pow_right (by decide) (Nat.sub_le _ _)
      _ ≤ whole * unitsPerOne := Nat.log2_self_le scaledPositive
  have digits : 1 ≤ whole * unitsPerOne / Nat.pow 2 ((whole * unitsPerOne).log2 - 52) :=
    (Nat.one_le_div_iff (Nat.pow_pos (by decide))).mpr power
  have rounded := Nat.le_trans digits (div_le_roundHalfEven _ _)
  have start : 0 < infinity := by decide
  simp only [nearest, Nat.div_one, Nat.one_mul]
  omega

theorem magnitude_ofInt (whole : Int) : magnitude (ofInt whole) = nearest whole.natAbs 1 :=
  magnitude_ofMagnitude (nearest_le_infinity _ _) _

theorem isSigned_ofInt (whole : Int) : isSigned (ofInt whole) = decide (whole < 0) :=
  isSigned_ofMagnitude (nearest_le_infinity _ _) _

private theorem magnitude_ofInt_eq_zero_iff (whole : Int) :
    magnitude (ofInt whole) = 0 ↔ whole = 0 := by
  rw [magnitude_ofInt]
  constructor
  · intro zero
    have noMagnitude : ¬ 0 < whole.natAbs := fun positive => nearest_one_ne_zero positive zero
    omega
  · rintro rfl
    exact nearest_zero 1

end Binary64

/-! ### Zero and negative numbers -/

namespace Number

/-- One of the three zeros. -/
def IsZero (number : Number) : Prop :=
  number = .integer 0 ∨ number = .real 0.0 ∨ number = .real (-0.0)

/-- An integer below zero, or a real with a sign that is neither the negative zero nor
not-a-number. -/
def IsNegative : Number → Prop
  | .integer value => value.toInt < 0
  | .real value => Binary64.isSigned value = true ∧ value ≠ -0.0 ∧ value.isNaN = false

theorem isZero_iff (number : Number) : number.isZero = true ↔ number.IsZero := by
  cases number with
  | integer value => simp [isZero, IsZero]
  | real value =>
      rw [isZero, Binary64.beq_zero_iff, Binary64.magnitude_eq_zero_iff]
      simp [IsZero]

private theorem lt_zero_iff_isNegative (value : Float) : value < 0.0 ↔ (real value).IsNegative := by
  rw [Binary64.lt_zero_iff, IsNegative]
  refine and_congr_right fun signed => ?_
  have notPositiveZero : value ≠ 0.0 := by
    rintro rfl
    exact absurd signed (by decide)
  have zero : Binary64.magnitude value = 0 ↔ value = -0.0 := by
    simp [Binary64.magnitude_eq_zero_iff, notPositiveZero]
  have number : value.isNaN = false ↔ Binary64.magnitude value ≤ Binary64.infinity := by
    rw [← Bool.not_eq_true, Binary64.isNaN_iff, Nat.not_lt]
  rw [ne_eq, zero, number]

theorem isNegative_iff (number : Number) : number.isNegative = true ↔ number.IsNegative := by
  cases number with
  | integer value =>
      rw [isNegative, decide_eq_true_eq, Int64.lt_iff_toInt_lt]
      rfl
  | real value => rw [isNegative, decide_eq_true_eq, lt_zero_iff_isNegative]

/-- An integer and the real it stands for are zero together. -/
theorem toReal_beq_zero_iff (number : Number) :
    (number.toReal == 0.0) = true ↔ number.IsZero := by
  cases number with
  | integer value =>
      rw [toReal, Binary64.beq_zero_iff, Binary64.magnitude_ofInt_eq_zero_iff]
      simp [IsZero, ← Int64.toInt_inj]
  | real value => exact isZero_iff (.real value)

/-- An integer and the real it stands for are negative together. -/
theorem toReal_lt_zero_iff (number : Number) : number.toReal < 0.0 ↔ number.IsNegative := by
  cases number with
  | integer value =>
      have bounded := Binary64.nearest_le_infinity value.toInt.natAbs 1
      rw [toReal, Binary64.lt_zero_iff, Binary64.isSigned_ofInt, decide_eq_true_eq, ne_eq,
        Binary64.magnitude_ofInt_eq_zero_iff, Binary64.magnitude_ofInt, IsNegative]
      omega
  | real value => exact lt_zero_iff_isNegative value

/-! ### Refused steps -/

/-- A quotient or a remainder by zero, or a negative power of zero. -/
def DividesByZero (left : Number) (operator : Operator) (right : Number) : Prop :=
  (operator = .fold .div ∨ operator = .fold .mod) ∧ right.IsZero ∨
  operator = .fold .pow ∧ left.IsZero ∧ right.IsNegative

/-- The test before a step finds exactly the divisions by zero. -/
theorem dividesByZero_iff (left : Number) (operator : FoldOperator) (right : Number) :
    left.dividesByZero operator right = true ↔ left.DividesByZero (.fold operator) right := by
  cases operator with
  | add | sub | mul => simp [dividesByZero, DividesByZero]
  | div | mod => simp [dividesByZero, DividesByZero, isZero_iff]
  | pow => simp [dividesByZero, DividesByZero, isZero_iff, isNegative_iff]

private theorem not_dividesByZero_function
    (left : Number)
    (operator : FunctionOperator)
    (right : Number) :
    ¬ left.DividesByZero (.function operator) right := by
  simp [DividesByZero]

/-- **When a step is refused.**  A step divides by zero exactly for a quotient or a remainder by one
of the zeros and for a negative power of one, and it is an invalid operation exactly for the four
functions.  In all other cases it has a result.  What is zero and what is negative may be asked of
the real that a number stands for as well: there are no more zeros and negative numbers among them. -/
theorem apply_refused_exactly (left right : Number) (operator : Operator) (line : Nat) :
    (left.apply operator right line = .error (.divisionByZero line) ↔
      left.DividesByZero operator right) ∧
    (left.apply operator right line = .error (.invalidOperand operator .notFolding line) ↔
      operator ∈ [.function .log, .function .sin, .function .cos, .function .tan]) ∧
    ((∃ result, left.apply operator right line = .ok result) ↔
      ¬ left.DividesByZero operator right ∧
      operator ∉ [.function .log, .function .sin, .function .cos, .function .tan]) ∧
    (∀ number : Number,
      ((number.toReal == 0.0) = true ↔ number.IsZero) ∧
      (number.toReal < 0.0 ↔ number.IsNegative)) := by
  have sameTests : ∀ number : Number,
      ((number.toReal == 0.0) = true ↔ number.IsZero) ∧
      (number.toReal < 0.0 ↔ number.IsNegative) :=
    fun number => ⟨toReal_beq_zero_iff number, toReal_lt_zero_iff number⟩
  cases operator with
  | function function =>
      have isFunction : Operator.function function ∈
          [.function .log, .function .sin, .function .cos, .function .tan] := by
        cases function <;> decide
      have noDivision := not_dividesByZero_function left function right
      refine ⟨?_, ?_, ?_, sameTests⟩
      · exact iff_of_false (by simp [apply]) noDivision
      · exact iff_of_true rfl isFunction
      · exact iff_of_false (by simp [apply]) (fun both => both.2 isFunction)
  | fold step =>
      have noFunction : Operator.fold step ∉
          [.function .log, .function .sin, .function .cos, .function .tan] := by simp
      simp only [← dividesByZero_iff]
      by_cases divides : left.dividesByZero step right = true
      · have refused : left.apply (.fold step) right line = .error (.divisionByZero line) :=
          if_pos divides
        refine ⟨iff_of_true refused divides, ?_, ?_, sameTests⟩
        · exact iff_of_false (by simp [refused]) noFunction
        · exact iff_of_false (by simp [refused]) (fun both => both.1 divides)
      · have applied : left.apply (.fold step) right line = .ok (left.combine step right) :=
          if_neg divides
        refine ⟨iff_of_false (by simp [applied]) divides, ?_, ?_, sameTests⟩
        · exact iff_of_false (by simp [applied]) noFunction
        · exact iff_of_true ⟨_, applied⟩ ⟨divides, noFunction⟩

end Number

end Reckoner
