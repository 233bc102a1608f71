/-!
# Sets of characters

A property of characters is given by the ranges of codes that have it, in ascending order.
-/

namespace ClassDiagram.Text

/-- Ranges of codes, each with its first and its last one. -/
abbrev Ranges := List (Nat × Nat)

/-- A code lies in one of the ranges. -/
def Ranges.has (rs : Ranges) (code : Nat) : Bool := rs.any fun r => r.1 ≤ code && code ≤ r.2

end ClassDiagram.Text
