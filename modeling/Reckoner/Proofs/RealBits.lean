import Reckoner.Binary64.Rounding

/-!
Contract: reals as bit patterns.

A real is its sign and its magnitude.  Magnitudes are ordered like the patterns without the sign bit:
first those of the finite reals, then the one of the infinities, and behind it only not-a-number.

Owns: the fields of a pattern as parts of the magnitude, patterns that are read and written, and the
magnitudes of the infinities and of not-a-number.

Does not own: the value of a finite real.
-/

namespace Reckoner.Binary64

open Float.Model (Format)
open Float.Model.UnpackedFloat
  (Sign pack packComponents packedNaN unpack unpackExponent unpackMantissa unpackSign)

/-! ### Sign and magnitude -/

theorem signBit_eq : signBit = 9223372036854775808 := rfl

theorem binade_eq : binade = 4503599627370496 := rfl

theorem infinity_eq : infinity = 9218868437227405312 := rfl

/-- A real is its bit pattern. -/
theorem eq_of_toBits {left right : Float} (same : left.toBits = right.toBits) : left = right := by
  obtain ⟨⟨leftBits, leftValid⟩⟩ := left
  obtain ⟨⟨rightBits, rightValid⟩⟩ := right
  obtain rfl : leftBits = rightBits := same
  rfl

private theorem magnitude_lt_signBit (real : Float) : magnitude real < signBit :=
  Nat.mod_lt _ (by decide)

/-- The sign bit stands above the magnitude. -/
theorem toNat_toBits (real : Float) :
    real.toBits.toNat = (if isSigned real then signBit else 0) + magnitude real := by
  have size := signBit_eq
  have below : real.toBits.toNat < 18446744073709551616 := real.toBits.toNat_lt
  simp only [isSigned, magnitude, size, decide_eq_true_eq]
  split <;> omega

/-- A real is its sign and its magnitude. -/
theorem eq_of_sign_of_magnitude
    {left right : Float}
    (sameSign : isSigned left = isSigned right)
    (sameMagnitude : magnitude left = magnitude right) :
    left = right := by
  apply eq_of_toBits
  rw [← UInt64.toNat_inj, toNat_toBits, toNat_toBits, sameSign, sameMagnitude]

/-! ### Fields of a pattern -/

/-- The bit pattern of a real, as one with a sign, an exponent and a mantissa. -/
def pattern (real : Float) : BitVec Format.binary64.numBits :=
  real.toBits.toBitVec

section Fields

/-- The exponent counts the binades. -/
theorem toNat_unpackExponent_toBitVec (bits : UInt64) :
    (@unpackExponent Format.binary64 bits.toBitVec).toNat = bits.toNat % signBit / binade := by
  have bound := signBit_eq
  have size := binade_eq
  simp only [unpackExponent, BitVec.toNat_cast, BitVec.extractLsb_toNat,
    Nat.shiftRight_eq_div_pow, bound, size]
  simp
  omega

/-- The mantissa is the place within a binade. -/
theorem toNat_unpackMantissa_toBitVec (bits : UInt64) :
    (@unpackMantissa Format.binary64 bits.toBitVec).toNat = bits.toNat % signBit % binade := by
  have bound := signBit_eq
  have size := binade_eq
  simp only [unpackMantissa, BitVec.toNat_cast, BitVec.extractLsb_toNat,
    Nat.shiftRight_eq_div_pow, bound, size]
  simp

variable (real : Float)

theorem toNat_unpackExponent : (unpackExponent (pattern real)).toNat = magnitude real / binade :=
  toNat_unpackExponent_toBitVec real.toBits

theorem toNat_unpackMantissa : (unpackMantissa (pattern real)).toNat = magnitude real % binade :=
  toNat_unpackMantissa_toBitVec real.toBits

/-- The last binade starts with the infinities. -/
theorem unpackExponent_eq_ones_iff :
    unpackExponent (pattern real) = -1#_ ↔ infinity ≤ magnitude real := by
  have ones : (-1#11).toNat = 2047 := by decide
  have below : magnitude real < 2048 * binade := magnitude_lt_signBit real
  have start : infinity = 2047 * binade := rfl
  have positive : 0 < binade := by decide
  rw [← BitVec.toNat_inj, toNat_unpackExponent, ones, Nat.div_eq_iff positive, start]
  omega

end Fields

/-! ### Patterns that are read and written -/

/-- A pattern is put together again from its fields. -/
private theorem packComponents_fields (word : BitVec Format.binary64.numBits) :
    packComponents Format.binary64 (.ofBitVec (unpackSign word)) (unpackExponent word)
      (unpackMantissa word) = word := by
  have signKept (sign : BitVec 1) : (Sign.ofBitVec sign).toBitVec = sign := by
    revert sign
    decide
  have upper : word.extractLsb' 63 1 ++ word.extractLsb' 52 11 = word.extractLsb' 52 12 :=
    BitVec.extractLsb'_append_extractLsb'_eq_extractLsb' (by decide)
  have whole : word.extractLsb' 52 12 ++ word.extractLsb' 0 52 = word :=
    (BitVec.extractLsb'_append_extractLsb'_eq_extractLsb' (by decide)).trans
      BitVec.extractLsb'_eq_self
  rw [packComponents, signKept]
  rw [← upper] at whole
  exact whole

/-- A mantissa of 53 binary digits is written without the first one. -/
private theorem pack_of_normal
    (sign : Sign)
    {mantissa exponent : Nat}
    (positive : 0 < mantissa)
    (normal : mantissa.log2 = 52)
    (bounded : exponent < 2047) :
    pack Format.binary64 (.finite sign mantissa (exponent - ((1023 : Nat) + (52 : Nat))) positive) =
      packComponents Format.binary64 sign (BitVec.ofNat 11 exponent)
        (BitVec.ofNat 52 mantissa) := by
  have biased : ((exponent : Int) - ((1023 : Nat) + (52 : Nat)) + (1023 : Nat) + (52 : Nat)).toNat =
      exponent := by omega
  have inRange : ¬ 2 ^ 11 ≤
      ((exponent : Int) - ((1023 : Nat) + (52 : Nat)) + (1023 : Nat) + (52 : Nat)).toNat + 1 := by
    omega
  refine (if_neg inRange).trans ((if_pos (congrArg (· + 1) normal)).trans ?_)
  exact congrArg
    (fun stored => packComponents Format.binary64 sign (BitVec.ofNat 11 stored) _) biased

/-- A mantissa of fewer digits is written in full, with an empty exponent. -/
private theorem pack_of_subnormal
    (sign : Sign)
    {mantissa : Nat}
    (positive : 0 < mantissa)
    (subnormal : mantissa.log2 < 52) :
    pack Format.binary64 (.finite sign mantissa (-1074) positive) =
      packComponents Format.binary64 sign 0#11 (BitVec.ofNat 52 mantissa) := by
  have notFull : ¬ mantissa.log2 + 1 = Format.binary64.mantissaBits :=
    fun full => Nat.ne_of_lt subnormal (Nat.succ.inj full)
  unfold pack
  rw [if_neg (by decide), if_neg notFull]

section Lead

variable (mantissa : BitVec 52)

private theorem toNat_lead : (1#1 ++ mantissa).toNat = binade + mantissa.toNat := by
  rw [BitVec.toNat_append, ← Nat.shiftLeft_add_eq_or_of_lt mantissa.isLt]
  rfl

/-- With the digit that is not written, a mantissa has 53 binary digits. -/
private theorem log2_toNat_lead : (1#1 ++ mantissa).toNat.log2 = 52 := by
  have bound : mantissa.toNat < 4503599627370496 := mantissa.isLt
  rw [toNat_lead, binade_eq, Nat.log2_eq_iff (by omega)]
  omega

private theorem ofNat_toNat_lead : BitVec.ofNat 52 (1#1 ++ mantissa).toNat = mantissa := by
  apply BitVec.eq_of_toNat_eq
  rw [toNat_lead, BitVec.toNat_ofNat, binade, Nat.add_mod_left]
  exact Nat.mod_eq_of_lt mantissa.isLt

end Lead

/-- Only a pattern of not-a-number may change when it is read and written. -/
theorem pack_unpack_of_number
    {word : BitVec Format.binary64.numBits}
    (isNumber : unpackExponent word = -1#_ → unpackMantissa word = 0#_) :
    pack Format.binary64 (unpack Format.binary64 word) = word := by
  have fields := packComponents_fields word
  unfold unpack
  by_cases ones : unpackExponent word = -1#_
  · rw [if_pos ones, if_pos (isNumber ones)]
    rw [ones, isNumber ones] at fields
    exact fields
  · rw [if_neg ones]
    by_cases firstBinade : unpackExponent word = 0#_
    · rw [if_pos firstBinade]
      rw [firstBinade] at fields
      by_cases empty : unpackMantissa word = 0#_
      · rw [dif_pos empty]
        rw [empty] at fields
        exact fields
      · have subnormal : (unpackMantissa word).toNat.log2 < 52 := by
          rw [Nat.log2_lt fun zero => empty (BitVec.eq_of_toNat_eq zero)]
          exact BitVec.isLt _
        rw [dif_neg empty, firstBinade]
        refine (pack_of_subnormal _ _ subnormal).trans ?_
        rw [BitVec.ofNat_toNat]
        exact fields
    · have exponentBound : (unpackExponent word).toNat < 2 ^ 11 := BitVec.isLt _
      have notOnes : (unpackExponent word).toNat ≠ 2047 :=
        fun allOnes => ones (BitVec.eq_of_toNat_eq allOnes)
      rw [if_neg firstBinade]
      refine (pack_of_normal _ _ (log2_toNat_lead _) (by omega)).trans ?_
      rw [BitVec.ofNat_toNat, ofNat_toNat_lead]
      exact fields

/-! ### Infinities and not-a-number -/

section Special

variable (real : Float)

/-- In the last binade only the first magnitude has an empty mantissa. -/
theorem unpackMantissa_eq_zero_iff_of_infinity_le (special : infinity ≤ magnitude real) :
    unpackMantissa (pattern real) = 0#_ ↔ magnitude real = infinity := by
  have below : magnitude real < 2048 * binade := magnitude_lt_signBit real
  have start : infinity = 2047 * binade := rfl
  have size := binade_eq
  have zero : (0#52).toNat = 0 := rfl
  rw [← BitVec.toNat_inj, toNat_unpackMantissa, zero]
  rw [size] at below start ⊢
  omega

theorem unpack_of_infinity_le (special : infinity ≤ magnitude real) :
    unpack Format.binary64 (pattern real) =
      if magnitude real = infinity then .infinity (.ofBitVec (unpackSign (pattern real)))
      else .notANumber := by
  unfold unpack
  rw [if_pos ((unpackExponent_eq_ones_iff real).mpr special)]
  simp only [unpackMantissa_eq_zero_iff_of_infinity_le real special]

/-- Below the last binade all reals are finite. -/
theorem isFinite_unpack (ordinary : magnitude real < infinity) :
    (unpack Format.binary64 (pattern real)).isFinite = true := by
  have noOnes : unpackExponent (pattern real) ≠ -1#_ := fun ones =>
    Nat.not_le.mpr ordinary ((unpackExponent_eq_ones_iff real).mp ones)
  unfold unpack
  rw [if_neg noOnes]
  by_cases firstBinade : unpackExponent (pattern real) = 0#_
  · rw [if_pos firstBinade]
    by_cases empty : unpackMantissa (pattern real) = 0#_
    · rw [dif_pos empty]
      rfl
    · rw [dif_neg empty]
      rfl
  · rw [if_neg firstBinade]
    rfl

theorem not_special_of_isFinite
    {value : Float.Model.UnpackedFloat}
    (finite : value.isFinite = true) :
    value.isInf = false ∧ value.isNaN = false := by
  cases value with
  | infinity sign => cases finite
  | notANumber => cases finite
  | zero sign => exact ⟨rfl, rfl⟩
  | finite sign mantissa exponent positive => exact ⟨rfl, rfl⟩

theorem not_special_of_lt_infinity (ordinary : magnitude real < infinity) :
    real.isInf = false ∧ real.isNaN = false :=
  not_special_of_isFinite (isFinite_unpack real ordinary)

/-- The infinities share one magnitude. -/
theorem isInf_iff : real.isInf = true ↔ magnitude real = infinity := by
  change (unpack Format.binary64 (pattern real)).isInf = true ↔ _
  by_cases special : infinity ≤ magnitude real
  · rw [unpack_of_infinity_le real special]
    by_cases infinite : magnitude real = infinity
    · rw [if_pos infinite]
      exact iff_of_true rfl infinite
    · rw [if_neg infinite]
      exact iff_of_false Bool.false_ne_true infinite
  · have ordinary := Nat.not_le.mp special
    have notInfinite := (not_special_of_isFinite (isFinite_unpack real ordinary)).1
    simp [notInfinite, Nat.ne_of_lt ordinary]

/-- The magnitude of not-a-number lies behind that of the infinities. -/
theorem isNaN_iff : real.isNaN = true ↔ infinity < magnitude real := by
  change (unpack Format.binary64 (pattern real)).isNaN = true ↔ _
  by_cases special : infinity ≤ magnitude real
  · rw [unpack_of_infinity_le real special]
    by_cases infinite : magnitude real = infinity
    · rw [if_pos infinite]
      exact iff_of_false Bool.false_ne_true (by omega)
    · rw [if_neg infinite]
      exact iff_of_true rfl (by omega)
  · have ordinary := Nat.not_le.mp special
    have isNumber := (not_special_of_isFinite (isFinite_unpack real ordinary)).2
    simp [isNumber, Nat.le_of_lt ordinary]

theorem magnitude_lt_infinity
    (isNumber : real.isNaN = false)
    (notInfinite : real.isInf = false) :
    magnitude real < infinity := by
  have notAbove : ¬ infinity < magnitude real := by rw [← isNaN_iff, isNumber]; decide
  have notAt : magnitude real ≠ infinity := by rw [Ne, ← isInf_iff, notInfinite]; decide
  omega

end Special

/-- There is only one not-a-number: its pattern is fixed. -/
theorem eq_of_isNaN
    {left right : Float}
    (leftNaN : left.isNaN = true)
    (rightNaN : right.isNaN = true) :
    left = right := by
  have fixed : ∀ real : Float, real.isNaN = true → pattern real = packedNaN Format.binary64 := by
    intro real isNaN
    rw [isNaN_iff] at isNaN
    have special := Nat.le_of_lt isNaN
    apply real.toModel.valid.eq_packedNaN
    · exact (unpackExponent_eq_ones_iff real).mpr special
    · intro zero
      exact Nat.ne_of_gt isNaN ((unpackMantissa_eq_zero_iff_of_infinity_le real special).mp zero)
  apply eq_of_toBits
  rw [← UInt64.toBitVec_inj]
  exact (fixed left leftNaN).trans (fixed right rightNaN).symm

end Reckoner.Binary64
