/-!
# Sets of characters

A set of characters is a list of closed ranges of code points.
-/

namespace TabNavigator.Text

/-- Whether the character lies in one of the ranges. -/
def inRanges (ranges : List (Nat × Nat)) (c : Char) : Bool :=
  ranges.any fun range => range.1 ≤ c.toNat && c.toNat ≤ range.2

end TabNavigator.Text
