/-!
# `Shoreline.Text.Ranges` — sets of code points, as ranges

The properties of the Unicode standard are sets of code points. They are written as lists of
inclusive ranges, in ascending order.
-/

namespace Shoreline.Text

/-- Whether a code point lies in one of the inclusive ranges. -/
def inRanges (ranges : List (Nat × Nat)) (n : Nat) : Bool :=
  ranges.any (fun r => r.1 ≤ n && n ≤ r.2)

/-- The code points of a set of ranges are those between the ends of one of them. -/
theorem inRanges_iff {ranges : List (Nat × Nat)} {n : Nat} :
    inRanges ranges n = true ↔ ∃ r ∈ ranges, r.1 ≤ n ∧ n ≤ r.2 := by
  simp [inRanges]

end Shoreline.Text
