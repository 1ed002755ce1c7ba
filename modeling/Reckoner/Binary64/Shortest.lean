import Reckoner.Binary64.Rounding

/-!
Contract: the shortest decimal numeral that is read back as a given magnitude.

For each count of digits the magnitude lies between two neighbours on the decimal grid with that
many digits.  The first grid on which one of the two reads back decides; of two neighbours that
both read back the nearer one is taken, and of two equally near the upper one.

Owns: the search, and the law that its result reads back.

Does not own: signs, special values, and the layout of the numeral in text.
-/

namespace Reckoner.Binary64

/-- The numeral next above `low` on the grid `10 ^ exponent`, where `low` has `count` digits.
A carry into a new digit is written with the one digit it needs. -/
def gridSuccessor (count low : Nat) (exponent : Int) : Decimal :=
  if low + 1 = Nat.pow 10 count then ⟨1, exponent + count⟩ else ⟨low + 1, exponent⟩

/-- The numeral with at most `count` digits that reads back as `magnitude`, if one does. -/
def numeralWith? (magnitude count : Nat) : Option Decimal :=
  let leading := Decimal.leadingExponent (units magnitude) unitsPerOne
  let exponent := leading - (count - 1 : Nat)
  let numerator := units magnitude * Nat.pow 10 (-exponent).toNat
  let denominator := unitsPerOne * Nat.pow 10 exponent.toNat
  let low := numerator / denominator
  let lower : Decimal := ⟨low, exponent⟩
  let upper := gridSuccessor count low exponent
  if ofDecimal lower = magnitude then
    if ofDecimal upper = magnitude ∧ denominator ≤ 2 * (numerator % denominator) then
      some upper
    else some lower
  else if ofDecimal upper = magnitude then some upper
  else none

/-- The numeral of a finite magnitude without any rounding. -/
def exactNumeral (magnitude : Nat) : Decimal :=
  ⟨units magnitude * Nat.pow 5 unitExponent, -(unitExponent : Int)⟩

/-- The shortest numeral that reads back as a finite magnitude.  Seventeen digits always suffice;
the exact numeral only makes the function total. -/
def shortest (magnitude : Nat) : Decimal :=
  if magnitude = 0 then ⟨0, 0⟩
  else ((List.range 17).findSome? fun index => numeralWith? magnitude (index + 1)).getD
    (exactNumeral magnitude)

/-- A numeral found on a grid reads back. -/
theorem ofDecimal_of_numeralWith?
    {magnitude count : Nat}
    {decimal : Decimal}
    (found : numeralWith? magnitude count = some decimal) :
    ofDecimal decimal = magnitude := by
  simp only [numeralWith?] at found
  split at found
  · rename_i lowerReads
    split at found
    · rename_i upperReads
      exact Option.some.inj found ▸ upperReads.1
    · exact Option.some.inj found ▸ lowerReads
  · split at found
    · rename_i upperReads
      exact Option.some.inj found ▸ upperReads
    · exact absurd found (by simp)

/-- The exact numeral reads back. -/
theorem ofDecimal_exactNumeral
    {magnitude : Nat}
    (finite : magnitude < infinity) :
    ofDecimal (exactNumeral magnitude) = magnitude := by
  have numerator :
      (exactNumeral magnitude).numerator = Nat.pow 5 unitExponent * units magnitude := by
    have noTens : (-(unitExponent : Int)).toNat = 0 := by omega
    simp only [exactNumeral, Decimal.numerator, noTens]
    exact (Nat.mul_one _).trans (Nat.mul_comm _ _)
  have denominator :
      (exactNumeral magnitude).denominator = Nat.pow 5 unitExponent * unitsPerOne := by
    simp only [exactNumeral, Decimal.denominator, Int.neg_neg, Int.toNat_natCast]
    exact Nat.mul_pow 5 2 unitExponent
  have positive : 0 < Nat.pow 5 unitExponent := Nat.pow_pos (by decide)
  rw [ofDecimal, numerator, denominator, nearest_mul_left positive, nearest_units finite]

/-- The shortest numeral of a finite magnitude reads back as that magnitude. -/
theorem ofDecimal_shortest
    {magnitude : Nat}
    (finite : magnitude < infinity) :
    ofDecimal (shortest magnitude) = magnitude := by
  unfold shortest
  split
  · rename_i zero
    rw [zero]
    exact nearest_zero 1
  · cases found : (List.range 17).findSome? fun index => numeralWith? magnitude (index + 1) with
    | none => exact ofDecimal_exactNumeral finite
    | some decimal =>
        obtain ⟨index, _, reads⟩ := List.exists_of_findSome?_eq_some found
        exact ofDecimal_of_numeralWith? reads

end Reckoner.Binary64
