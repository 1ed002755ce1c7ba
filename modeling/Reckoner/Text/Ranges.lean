/-!
Contract: sets of characters given by ranges of code points.

Owns: membership.

Does not own: any particular set.
-/

namespace Reckoner

/-- A set of characters: ranges of code points, both ends included, in ascending order. -/
structure CharRanges where
  ranges : List (Nat × Nat)

def CharRanges.contains (set : CharRanges) (c : Char) : Bool :=
  set.ranges.any fun range => range.1 ≤ c.toNat && c.toNat ≤ range.2

end Reckoner
