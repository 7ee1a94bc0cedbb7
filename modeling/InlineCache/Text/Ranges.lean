/-!
# Classes of characters as ranges

A property of characters is a list of closed ranges of code points, in ascending order.

## Main definitions

* `inRanges`: membership in a list of ranges
-/

namespace InlineCache.Text

/-- The code point lies in one of the ranges. -/
def inRanges (ranges : List (Nat × Nat)) (point : Nat) : Bool :=
  ranges.any fun range => range.1 ≤ point && point ≤ range.2

theorem inRanges_iff {ranges : List (Nat × Nat)} {point : Nat} :
    inRanges ranges point = true ↔ ∃ range ∈ ranges, range.1 ≤ point ∧ point ≤ range.2 := by
  simp [inRanges, List.any_eq_true]

end InlineCache.Text
