/-!
# Ranges of code points

Sets of characters as a list of ranges of Unicode code points.
-/

namespace TxGateway.Text

/-- Ranges of code points: the first and the last of each. -/
abbrev Ranges := List (Nat × Nat)

/-- Whether a code point lies in one of the ranges. -/
def Ranges.mem (ranges : Ranges) (code : Nat) : Bool :=
  ranges.any fun range => range.1 ≤ code && code ≤ range.2

end TxGateway.Text
