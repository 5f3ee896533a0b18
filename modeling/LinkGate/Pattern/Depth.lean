/-!
How deep the parts of a pattern stand in one another. A pattern that nests deeper than a limit is
refused, so the depth is all that is kept of a part that has been read.
-/

namespace LinkGate.Pattern

/-- The depth of a row of parts. One part alone is not a row. -/
def rowDepth : List Nat → Nat
  | [] => 0
  | [d] => d
  | d :: ds => ds.foldl max d + 1

/-- How deep parts may stand in one another. -/
def depthLimit : Nat := 250

end LinkGate.Pattern
