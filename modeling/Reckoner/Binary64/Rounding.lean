import Reckoner.Decimal

/-!
Contract: the binary64 format as exact arithmetic on natural numbers.

A magnitude is the bit pattern of a nonnegative real.  Every finite magnitude stands for a whole
number of units, one unit being `2 ^ -1074`, the least positive real.

Owns:
- the number of units of a magnitude;
- the magnitude nearest to a quotient of natural numbers, a tie going to the even neighbour;
- the laws that rounding depends only on the quotient, and that the units of a magnitude are read
  back as that magnitude;
- the split of a real into sign and magnitude, and the real nearest to an integer or a decimal.

Does not own: arithmetic on reals, and their text.
-/

namespace Reckoner.Binary64

/-- One unit is two to the power of minus this number.  It is kept folded, because powers with so
large an exponent are not to be computed while a proof is checked. -/
@[irreducible]
def unitExponent : Nat := 1074

def unitsPerOne : Nat := Nat.pow 2 unitExponent

/-- The number of magnitudes that share one exponent. -/
def binade : Nat := Nat.pow 2 52

/-- The magnitude of the infinities: the first one that is not finite. -/
def infinity : Nat := 2047 * binade

def signBit : Nat := Nat.pow 2 63

/-- The units of a finite magnitude.  In the lowest two binades the magnitude counts the units
itself; from there on each binade doubles the step. -/
def units (magnitude : Nat) : Nat :=
  if magnitude < binade then magnitude
  else (binade + magnitude % binade) * Nat.pow 2 (magnitude / binade - 1)

/-- The whole number nearest to `numerator / denominator`; a half goes to the even neighbour. -/
def roundHalfEven (numerator denominator : Nat) : Nat :=
  let whole := numerator / denominator
  let twice := 2 * (numerator % denominator)
  if twice < denominator then whole
  else if denominator < twice then whole + 1
  else whole + whole % 2

/-- The magnitude nearest to `numerator / denominator`.

The quotient in units is rounded after a division by `2 ^ shift`, which leaves 53 binary digits, or
all of them when there are fewer.  Since a carry out of the 53 digits lands on the first magnitude
of the next binade, the magnitude is `shift` binades plus the rounded quotient. -/
def nearest (numerator denominator : Nat) : Nat :=
  let scaled := numerator * unitsPerOne
  let shift := (scaled / denominator).log2 - 52
  min (shift * binade + roundHalfEven scaled (denominator * Nat.pow 2 shift)) infinity

/-- The magnitude that a decimal numeral is read as. -/
def ofDecimal (decimal : Decimal) : Nat :=
  nearest decimal.numerator decimal.denominator

def ofMagnitude (negative : Bool) (magnitude : Nat) : Float :=
  Float.ofBits (UInt64.ofNat (if negative then signBit + magnitude else magnitude))

def isSigned (real : Float) : Bool :=
  signBit ≤ real.toBits.toNat

/-- The bit pattern of a real without its sign. -/
def magnitude (real : Float) : Nat :=
  real.toBits.toNat % signBit

/-- The real nearest to an integer. -/
def ofInt (n : Int) : Float :=
  ofMagnitude (n < 0) (nearest n.natAbs 1)

theorem unitsPerOne_pos : 0 < unitsPerOne :=
  Nat.pow_pos (by decide)

/-- A quotient keeps its rounding when both parts are multiplied by the same factor. -/
theorem roundHalfEven_mul_left
    {factor : Nat}
    (positive : 0 < factor)
    (numerator denominator : Nat) :
    roundHalfEven (factor * numerator) (factor * denominator) =
      roundHalfEven numerator denominator := by
  have twice (n : Nat) : 2 * (factor * n) = factor * (2 * n) := Nat.mul_left_comm 2 factor n
  simp only [roundHalfEven, Nat.mul_div_mul_left _ _ positive, Nat.mul_mod_mul_left, twice,
    Nat.mul_lt_mul_left positive]

/-- A whole number is its own rounding. -/
theorem roundHalfEven_mul_self
    {denominator : Nat}
    (positive : 0 < denominator)
    (whole : Nat) :
    roundHalfEven (whole * denominator) denominator = whole := by
  simp [roundHalfEven, Nat.mul_div_cancel _ positive, positive]

/-- A quotient keeps its magnitude when both parts are multiplied by the same factor. -/
theorem nearest_mul_left
    {factor : Nat}
    (positive : 0 < factor)
    (numerator denominator : Nat) :
    nearest (factor * numerator) (factor * denominator) = nearest numerator denominator := by
  simp only [nearest, Nat.mul_assoc, Nat.mul_div_mul_left _ _ positive,
    roundHalfEven_mul_left positive]

/-- The binary digits of the units tell the binade. -/
theorem log2_units
    {magnitude : Nat}
    (normal : binade ≤ magnitude) :
    (units magnitude).log2 = 52 + (magnitude / binade - 1) := by
  have fraction : magnitude % binade < binade := Nat.mod_lt _ (by decide)
  have size : binade = 2 ^ 52 := rfl
  rw [units, if_neg (Nat.not_lt.mpr normal)]
  have nonzero : (binade + magnitude % binade) * Nat.pow 2 (magnitude / binade - 1) ≠ 0 :=
    Nat.mul_ne_zero (by omega) (Nat.ne_of_gt (Nat.pow_pos (by decide)))
  rw [Nat.log2_eq_iff nonzero]
  constructor
  · rw [Nat.pow_add]
    exact Nat.mul_le_mul_right _ (by omega)
  · rw [Nat.add_right_comm, Nat.pow_add]
    exact Nat.mul_lt_mul_of_pos_right (by omega) (Nat.pow_pos (by decide))

/-- The units of a finite magnitude are read back as that magnitude. -/
theorem nearest_units
    {magnitude : Nat}
    (finite : magnitude < infinity) :
    nearest (units magnitude) unitsPerOne = magnitude := by
  simp only [nearest, Nat.mul_div_cancel _ unitsPerOne_pos]
  by_cases normal : binade ≤ magnitude
  · have split : magnitude / binade * binade + magnitude % binade = magnitude :=
      Nat.div_add_mod' magnitude binade
    have above : 1 ≤ magnitude / binade := (Nat.one_le_div_iff (by decide)).mpr normal
    rw [log2_units normal, Nat.add_sub_cancel_left]
    have scaled :
        units magnitude * unitsPerOne =
          (binade + magnitude % binade) *
            (unitsPerOne * Nat.pow 2 (magnitude / binade - 1)) := by
      rw [units, if_neg (Nat.not_lt.mpr normal), Nat.mul_assoc,
        Nat.mul_comm (Nat.pow 2 _) unitsPerOne]
    have positive : 0 < unitsPerOne * Nat.pow 2 (magnitude / binade - 1) :=
      Nat.mul_pos unitsPerOne_pos (Nat.pow_pos (by decide))
    rw [scaled, roundHalfEven_mul_self positive]
    have binades :
        (magnitude / binade - 1) * binade + (binade + magnitude % binade) = magnitude := by
      rw [← Nat.add_assoc, ← Nat.succ_mul, Nat.succ_eq_add_one, Nat.sub_add_cancel above, split]
    rw [binades]
    exact Nat.min_eq_left (Nat.le_of_lt finite)
  · have small : units magnitude = magnitude := by
      rw [units, if_pos (Nat.not_le.mp normal)]
    have noShift : magnitude.log2 - 52 = 0 := by
      by_cases zero : magnitude = 0
      · simp [zero]
      · have bound : magnitude.log2 < 52 := (Nat.log2_lt zero).mpr (Nat.not_le.mp normal)
        omega
    rw [small, noShift]
    have unscaled : unitsPerOne * Nat.pow 2 0 = unitsPerOne * 1 := rfl
    rw [unscaled, Nat.mul_one, roundHalfEven_mul_self unitsPerOne_pos, Nat.zero_mul, Nat.zero_add]
    exact Nat.min_eq_left (Nat.le_of_lt finite)

/-- Zero is read as zero. -/
theorem nearest_zero (denominator : Nat) : nearest 0 denominator = 0 := by
  simp [nearest, roundHalfEven]

end Reckoner.Binary64
