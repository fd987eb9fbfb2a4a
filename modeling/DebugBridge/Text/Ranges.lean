/-!
# Ranges of code points

A character property is a list of inclusive ranges of code points, in ascending order.
-/

namespace DebugBridge.Text

/-- Whether a code point lies in one of the ranges. -/
def inRanges (ranges : List (Nat × Nat)) (code : Nat) : Bool :=
  ranges.any fun range => range.1 ≤ code && code ≤ range.2

end DebugBridge.Text
