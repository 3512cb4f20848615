/-!
# Ranges of code points

A class of characters that a standard lists is a list of closed ranges of code points.
`CodeRanges.contains` reads such a list; the classes themselves stand in the modules that need
them.
-/

namespace ConfigTables.Text

/-- A class of characters: closed ranges of code points, both ends included. -/
abbrev CodeRanges := List (Nat × Nat)

/-- Whether one of the ranges holds the character. -/
def CodeRanges.contains (ranges : CodeRanges) (c : Char) : Bool :=
  ranges.any fun range ↦ range.1 ≤ c.toNat && c.toNat ≤ range.2

theorem CodeRanges.contains_iff (ranges : CodeRanges) (c : Char) :
    ranges.contains c = true ↔ ∃ range ∈ ranges, range.1 ≤ c.toNat ∧ c.toNat ≤ range.2 := by
  simp [CodeRanges.contains]

end ConfigTables.Text
