/-!
Sets of characters as tables of closed ranges of code points, each with its first and its last code
point.
-/

namespace LinkGate.Text

/-- Whether a code point lies in one of the closed ranges. -/
def inRanges (ranges : List (Nat × Nat)) (n : Nat) : Bool :=
  ranges.any fun r => r.1 ≤ n && n ≤ r.2

end LinkGate.Text
