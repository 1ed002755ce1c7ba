/-!
Contract: decimal numerals as exact data, apart from any binary format.

Owns:
- the numeral `coefficient × 10 ^ exponent` and its value as a quotient of natural numbers;
- the digits of natural numbers and of integers;
- the exponent of the leading digit of a positive quotient.

Does not own: rounding to a binary format, and the layout of reals in text.
-/

namespace Reckoner

/-- A decimal numeral, standing for `coefficient × 10 ^ exponent`. -/
structure Decimal where
  coefficient : Nat
  exponent : Int
deriving DecidableEq

namespace Decimal

def numerator (decimal : Decimal) : Nat :=
  decimal.coefficient * Nat.pow 10 decimal.exponent.toNat

def denominator (decimal : Decimal) : Nat :=
  Nat.pow 10 (-decimal.exponent).toNat

/-- The decimal digits of a natural number, without leading zeros. -/
def digits (n : Nat) : List Char :=
  Nat.toDigits 10 n

def ofDigits (text : List Char) : Nat :=
  Nat.ofDigitChars 10 text 0

@[simp]
theorem ofDigits_digits (n : Nat) : ofDigits (digits n) = n :=
  Nat.ofDigitChars_ten_toDigits

def signedDigits (n : Int) : List Char :=
  if n < 0 then '-' :: digits n.natAbs else digits n.natAbs

/-- The exponent of ten at the leading digit of `numerator / denominator`, both positive.

Above one, it is read off the digits of the whole part.  Below one, the whole part of the inverse
has `count` digits, so the inverse lies in `[10 ^ (count - 1), 10 ^ count)`, and only its lower end
is itself a power of ten. -/
def leadingExponent (numerator denominator : Nat) : Int :=
  if denominator ≤ numerator then
    ((digits (numerator / denominator)).length : Int) - 1
  else
    let count := (digits (denominator / numerator)).length
    if denominator ≤ numerator * Nat.pow 10 (count - 1) then 1 - (count : Int) else -(count : Int)

end Decimal

end Reckoner
