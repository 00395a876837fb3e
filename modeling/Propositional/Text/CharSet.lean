/-!
# Sets of characters

A set of characters given by ranges of code points. The classes of Unicode that this library needs
are tables of this kind.
-/

namespace Propositional

/-- A set of characters, as ranges of code points with both ends included. -/
structure CharSet where
  ranges : List (Nat × Nat)

/-- A character belongs to the set if its code point lies in one of the ranges. -/
def CharSet.contains (s : CharSet) (c : Char) : Bool :=
  s.ranges.any fun r => r.1 ≤ c.toNat && c.toNat ≤ r.2

end Propositional
