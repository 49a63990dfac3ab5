/-!
# Ranges of code points

Sets of characters are given by inclusive ranges of code points.  A set is the
union of its ranges, so the order of the ranges does not matter.
-/

namespace Chronicle.Text

/-- Inclusive ranges of code points. -/
abbrev CodeRanges := List (Nat × Nat)

/-- Some range holds the code point of the character. -/
def CodeRanges.holds (ranges : CodeRanges) (character : Char) : Bool :=
  ranges.any fun range => decide (range.1 ≤ character.toNat ∧ character.toNat ≤ range.2)

theorem CodeRanges.holds_iff (ranges : CodeRanges) (character : Char) :
    ranges.holds character = true ↔
      ∃ range ∈ ranges, range.1 ≤ character.toNat ∧ character.toNat ≤ range.2 := by
  simp [CodeRanges.holds]

end Chronicle.Text
