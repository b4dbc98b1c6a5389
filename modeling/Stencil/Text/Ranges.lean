/-!
# Ranges of code points

A property of characters is a list of closed ranges of code points. `inRanges` is the test;
`inRanges_iff` says that it finds exactly the numbers that lie in some range of the list.
-/

namespace Stencil.Text

/-- Whether `n` lies in one of the closed ranges. -/
def inRanges (ranges : List (Nat × Nat)) (n : Nat) : Bool :=
  ranges.any fun range => range.1 ≤ n && n ≤ range.2

theorem inRanges_iff {ranges : List (Nat × Nat)} {n : Nat} :
    inRanges ranges n = true ↔ ∃ range ∈ ranges, range.1 ≤ n ∧ n ≤ range.2 := by
  simp [inRanges]

end Stencil.Text
