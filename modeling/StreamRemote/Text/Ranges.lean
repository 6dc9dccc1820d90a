/-!
# Classes of characters given by ranges

A class with no simple rule is given as a list of ranges of code points, both ends included.
-/

namespace StreamRemote.Text

/-- The character lies in one of the ranges. -/
def inRanges (ranges : List (Nat × Nat)) (c : Char) : Bool :=
  ranges.any fun range => range.1 ≤ c.toNat && c.toNat ≤ range.2

/-- A character is in the class exactly when some range holds its code point. -/
theorem inRanges_eq_true_iff {ranges : List (Nat × Nat)} {c : Char} :
    inRanges ranges c = true ↔ ∃ range ∈ ranges, range.1 ≤ c.toNat ∧ c.toNat ≤ range.2 := by
  simp [inRanges]

end StreamRemote.Text
