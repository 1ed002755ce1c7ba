import Reckoner.Binary64.Rounding

/-!
Contract: the values of the language.

Owns: the two kinds of number, the real that a number stands for, the tests against zero, and the
comparison of two numbers.

Does not own: arithmetic and text.
-/

namespace Reckoner

/-- A value: a 64-bit signed integer or a binary64 real. -/
inductive Number where
  | integer (value : Int64)
  | real (value : Float)
deriving DecidableEq

namespace Number

/-- The real nearest to a number. -/
def toReal : Number → Float
  | .integer value => Binary64.ofInt value.toInt
  | .real value => value

/-- Whether a number is zero, of either kind and sign. -/
def isZero : Number → Bool
  | .integer value => value == 0
  | .real value => value == 0.0

def isNegative : Number → Bool
  | .integer value => value < 0
  | .real value => value < 0.0

/-- Numerical sameness.  An integer never equals a real, the two zeros of the reals are equal, and
not-a-number equals nothing, itself included. -/
def equals : Number → Number → Bool
  | .integer left, .integer right => left == right
  | .real left, .real right => left == right
  | _, _ => false

/-- The integer as a number, when it fits in 64 bits. -/
def ofInt? (value : Int) : Option Int64 :=
  if Int64.minValue.toInt ≤ value ∧ value ≤ Int64.maxValue.toInt then some (Int64.ofInt value)
  else none

/-- Nothing is wrapped: the number found has the value of the integer. -/
theorem ofInt?_eq_some_iff (value : Int) (number : Int64) :
    ofInt? value = some number ↔ number.toInt = value := by
  unfold ofInt?
  constructor
  · intro found
    split at found
    · rename_i fits
      rw [← Option.some.inj found]
      exact Int64.toInt_ofInt_of_le fits.1 (Int.lt_of_le_sub_one fits.2)
    · cases found
  · rintro rfl
    rw [if_pos ⟨Int64.minValue_le_toInt number, Int64.toInt_le number⟩, Int64.ofInt_toInt]

end Number

end Reckoner
