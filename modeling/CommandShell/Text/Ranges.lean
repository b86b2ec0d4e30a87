import CommandShell.Text.CodePoint

/-!
Sets of code points, given as ranges.
-/

namespace CommandShell.Text

/-- Ranges of code points, both ends included. -/
abbrev Ranges := List (Nat × Nat)

/-- The code point lies in one of the ranges. -/
def Ranges.has (ranges : Ranges) (c : CodePoint) : Bool :=
  ranges.any fun r => r.1 ≤ c.value && c.value ≤ r.2

theorem Ranges.has_iff {ranges : Ranges} {c : CodePoint} :
    ranges.has c = true ↔ ∃ r ∈ ranges, r.1 ≤ c.value ∧ c.value ≤ r.2 := by
  simp [Ranges.has]

end CommandShell.Text
