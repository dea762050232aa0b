/-!
# Sets of code points

A character class of a standard is a list of closed ranges in ascending order.
-/

namespace AsmNavigator.Text

/-- Closed ranges of code points. -/
abbrev CodePoints := List (Nat × Nat)

def CodePoints.contains (ranges : CodePoints) (c : Char) : Bool :=
  ranges.any fun range => range.1 ≤ c.toNat && c.toNat ≤ range.2

end AsmNavigator.Text
