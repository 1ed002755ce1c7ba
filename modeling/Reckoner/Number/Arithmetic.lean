import Reckoner.Binary64.Remainder
import Reckoner.Failure

/-!
Contract: the meaning of the operators on numbers.

Two integers give an integer as long as the exact result fits in 64 bits.  In every other case the
operation is done on reals, so a result is exact or promoted, and never wrapped.

Owns: one step of a fold, the functions, and the conditions under which either is refused.

Does not own: the order in which operands are evaluated.
-/

namespace Reckoner.Number

/-- An exponent whose power fits in 64 bits exactly when that of `exponent` does, and then agrees
with it.  From 64 on, only the powers of `0`, `1` and `-1` fit, and these depend on the parity. -/
def boundedExponent (exponent : Nat) : Nat :=
  if exponent < 64 then exponent else 64 + exponent % 2

/-- The exact result of a step on integers, if the step has one that fits.  A remainder needs a
quotient that fits; a quotient itself, and a power with a negative exponent, are left to reals. -/
def integerStep? (operator : FoldOperator) (left right : Int64) : Option Int64 :=
  match operator with
  | .add => ofInt? (left.toInt + right.toInt)
  | .sub => ofInt? (left.toInt - right.toInt)
  | .mul => ofInt? (left.toInt * right.toInt)
  | .div => none
  | .mod =>
      (ofInt? (left.toInt.tdiv right.toInt)).bind fun _ => ofInt? (left.toInt.fmod right.toInt)
  | .pow =>
      if right < 0 then none else ofInt? (Int.pow left.toInt (boundedExponent right.toInt.toNat))

def realStep (operator : FoldOperator) (left right : Float) : Float :=
  match operator with
  | .add => left + right
  | .sub => left - right
  | .mul => left * right
  | .div => left / right
  | .mod => Binary64.flooredRemainder left right
  | .pow => left.pow right

/-- Whether a step divides by zero: a zero divisor, or a negative power of zero. -/
def dividesByZero (left : Number) (operator : FoldOperator) (right : Number) : Bool :=
  match operator with
  | .div | .mod => right.isZero
  | .pow => left.isZero && right.isNegative
  | .add | .sub | .mul => false

/-- The result of a step that does not divide by zero. -/
def combine (left : Number) (operator : FoldOperator) (right : Number) : Number :=
  match left, right with
  | .integer left, .integer right =>
      match integerStep? operator left right with
      | some result => .integer result
      | none => .real (realStep operator (toReal (.integer left)) (toReal (.integer right)))
  | left, right => .real (realStep operator left.toReal right.toReal)

/-- Combines a running result with the next operand.  Operators that do not fold are refused. -/
def apply (left : Number) (operator : Operator) (right : Number) (line : Nat) :
    Except EvalError Number :=
  match operator with
  | .function _ => .error (.invalidOperand operator .notFolding line)
  | .fold step =>
      if left.dividesByZero step right then .error (.divisionByZero line)
      else .ok (left.combine step right)

def radiansPerDegree : Float := 0.017453292519943295

def isNonpositive : Number → Bool
  | .integer value => value ≤ 0
  | .real value => value ≤ 0.0

/-- The value of a function where it is defined: a decimal logarithm, or a trigonometric function
of an angle in degrees. -/
def functionValue (function : FunctionOperator) (operand : Float) : Float :=
  match function with
  | .log => operand.log10
  | .sin => (operand * radiansPerDegree).sin
  | .cos => (operand * radiansPerDegree).cos
  | .tan => (operand * radiansPerDegree).tan

/-- Applies a function operator.  Folding operators are refused, and so is the logarithm of a
number that is not positive. -/
def call (operator : Operator) (operand : Number) (line : Nat) : Except EvalError Number :=
  match operator with
  | .fold _ => .error (.invalidOperand operator .notFunction line)
  | .function .log =>
      if operand.isNonpositive then
        .error (.invalidOperand operator (.notPositive operand) line)
      else .ok (.real (functionValue .log operand.toReal))
  | .function function => .ok (.real (functionValue function operand.toReal))

end Reckoner.Number
