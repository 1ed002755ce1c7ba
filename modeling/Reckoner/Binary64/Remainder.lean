import Reckoner.Binary64.Rounding

/-!
Contract: the remainder of two reals, computed without rounding.

Both operands are whole numbers of units, so the remainder of the magnitudes is a remainder of
natural numbers and always has a magnitude of its own.

Owns: the truncated remainder, which keeps the sign of the dividend, and the floored remainder,
which takes the sign of the divisor.

Does not own: the treatment of a zero divisor, which callers refuse beforehand.
-/

namespace Reckoner.Binary64

/-- The remainder of the division that drops the fraction of the quotient.  It keeps the sign of
the dividend; a dividend is its own remainder by an infinity. -/
def truncatedRemainder (dividend divisor : Float) : Float :=
  if dividend.isNaN || divisor.isNaN || dividend.isInf || divisor == 0.0 then 0.0 / 0.0
  else if divisor.isInf then dividend
  else
    ofMagnitude (isSigned dividend)
      (nearest (units (magnitude dividend) % units (magnitude divisor)) unitsPerOne)

/-- The remainder with the sign of the divisor: a nonzero truncated remainder of the other sign is
moved by one divisor. -/
def flooredRemainder (dividend divisor : Float) : Float :=
  let rest := truncatedRemainder dividend divisor
  if rest != 0.0 && (decide (rest < 0.0) != decide (divisor < 0.0)) then rest + divisor else rest

end Reckoner.Binary64
