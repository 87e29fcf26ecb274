/-! Sets of characters given by ranges of code points. -/

namespace IntentBus.Text

/-- Ranges of code points, ends included. -/
abbrev CodeRanges := List (Nat × Nat)

/-- Whether a code point lies in one of the ranges. -/
def inRanges (ranges : CodeRanges) (code : Nat) : Bool :=
  ranges.any fun range => range.1 ≤ code && code ≤ range.2

theorem inRanges_iff {ranges : CodeRanges} {code : Nat} :
    inRanges ranges code = true ↔ ∃ range ∈ ranges, range.1 ≤ code ∧ code ≤ range.2 := by
  simp [inRanges]

/-- A stretch of code points that every range lies beside is in none of them. -/
theorem inRanges_eq_false {ranges : CodeRanges} {low high code : Nat}
    (beside : ranges.all (fun range => range.2 < low || high < range.1) = true)
    (above : low ≤ code) (below : code ≤ high) : inRanges ranges code = false := by
  refine Bool.eq_false_iff.2 fun inside => ?_
  obtain ⟨range, member, lower, upper⟩ := inRanges_iff.1 inside
  have apart := List.all_eq_true.1 beside range member
  simp only [Bool.or_eq_true, decide_eq_true_eq] at apart
  omega

/-- The letters and digits of the ASCII range lie in three stretches. -/
theorem code_of_isAlphanum {c : Char} (h : c.isAlphanum = true) :
    (0x41 ≤ c.toNat ∧ c.toNat ≤ 0x5A) ∨ (0x61 ≤ c.toNat ∧ c.toNat ≤ 0x7A) ∨ (0x30 ≤ c.toNat ∧ c.toNat ≤ 0x39) := by
  have stretches : (decide (c.val ≥ 0x41 ∧ c.val ≤ 0x5A) || (c.val ≥ 0x61 && c.val ≤ 0x7A)
      || (c.val ≥ 0x30 && c.val ≤ 0x39)) = true := h
  simp only [Bool.or_eq_true, Bool.and_eq_true, decide_eq_true_eq, ge_iff_le, UInt32.le_iff_toNat_le]
    at stretches
  exact or_assoc.1 stretches

end IntentBus.Text
