import SchemaNaming.Text.Basic

namespace SchemaNaming

/-!
# Sets of code points

A set of code points is kept as closed ranges, in ascending order and apart from one another.
-/

namespace CodePoint

/-- The code point lies in one of the ranges, both ends included. -/
def inRanges (ranges : List (Nat × Nat)) (c : CodePoint) : Bool :=
  ranges.any fun r => r.1 ≤ c.val && c.val ≤ r.2

/-- A code point is in some ranges if one of them holds it. -/
theorem inRanges_iff (ranges : List (Nat × Nat)) (c : CodePoint) :
    c.inRanges ranges = true ↔ ∃ r ∈ ranges, r.1 ≤ c.val ∧ c.val ≤ r.2 := by
  simp [inRanges]

end CodePoint

end SchemaNaming
