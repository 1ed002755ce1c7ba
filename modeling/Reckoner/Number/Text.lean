import Reckoner.Binary64.Shortest
import Reckoner.Number.Basic

/-!
Contract: the text of numbers.

A finite real is written with the digits of its shortest numeral.  From `1e-4` up to but not
including `1e16` the digits stand around a point, and elsewhere before an exponent.  A real is thus
never written like an integer.

Owns: the positional and the exponent layout, the decisions of the two places where reals are
written, and the text of a number.

Does not own: the choice of the digits.
-/

namespace Reckoner

/-- What differs between the places where reals are written. -/
structure RealFormat where
  /-- The text of not-a-number. -/
  notANumber : String
  /-- What stands between the exponent mark and a nonnegative exponent. -/
  plus : String
  /-- The least number of exponent digits. -/
  exponentWidth : Nat

namespace RealFormat

/-- Digits and a point.  A numeral without a fraction gets the fraction `0`; one without a whole
part gets leading zeros. -/
def positional (decimal : Decimal) : List Char :=
  if 0 ≤ decimal.exponent then
    Decimal.digits decimal.coefficient ++ List.replicate decimal.exponent.toNat '0' ++ ['.', '0']
  else
    let places := (-decimal.exponent).toNat
    let digits := Decimal.digits decimal.coefficient
    let padded := List.replicate (places + 1 - digits.length) '0' ++ digits
    padded.take (padded.length - places) ++ '.' :: padded.drop (padded.length - places)

def exponentDigits (width exponent : Nat) : List Char :=
  List.replicate (width - (Decimal.digits exponent).length) '0' ++ Decimal.digits exponent

/-- One digit, the others after a point, and the exponent of ten of the first one. -/
def scientific (format : RealFormat) (decimal : Decimal) : List Char :=
  let digits := Decimal.digits decimal.coefficient
  let exponent := decimal.exponent + (digits.length : Int) - 1
  let mantissa := if digits.length ≤ 1 then digits else digits.take 1 ++ '.' :: digits.drop 1
  let sign := if exponent < 0 then ['-'] else format.plus.toList
  mantissa ++ 'e' :: sign ++ exponentDigits format.exponentWidth exponent.natAbs

/-- Whether a finite real is written positionally: it is zero or its magnitude is in
`[1e-4, 1e16)`. -/
def isPositional (real : Float) : Bool :=
  real == 0.0 || (decide (1e-4 ≤ real.abs) && decide (real.abs < 1e16))

def magnitudeText (format : RealFormat) (real : Float) : List Char :=
  if real.isInf then "inf".toList
  else
    let decimal := Binary64.shortest (Binary64.magnitude real)
    if isPositional real then positional decimal else format.scientific decimal

def text (format : RealFormat) (real : Float) : List Char :=
  if real.isNaN then format.notANumber.toList
  else if Binary64.isSigned real then '-' :: format.magnitudeText real
  else format.magnitudeText real

end RealFormat

namespace Number

/-- Reals in output and listings: an exponent always has a sign and at least two digits. -/
def realFormat : RealFormat where
  notANumber := "nan"
  plus := "+"
  exponentWidth := 2

def characters : Number → List Char
  | .integer value => Decimal.signedDigits value.toInt
  | .real value => realFormat.text value

def text (number : Number) : String :=
  String.ofList number.characters

end Number

end Reckoner
