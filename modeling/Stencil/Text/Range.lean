/-!
# Sets of code points

A property of characters is kept as the list of its code point ranges, in increasing order.
`inRanges` looks a code point up and stops at the first range that lies beyond it, so a character
near the front of the table is settled early.
-/

namespace Stencil.Text

/-- Whether `n` lies in one of the ranges, whose bounds are included and which are in increasing
order. -/
def inRanges : List (Nat × Nat) → Nat → Bool
  | [], _ => false
  | (low, high) :: rest, n => decide (low ≤ n) && (decide (n ≤ high) || inRanges rest n)

@[simp] theorem inRanges_nil (n : Nat) : inRanges [] n = false := rfl

/-- What a look-up finds is in one of the ranges. -/
theorem exists_range_of_inRanges {ranges : List (Nat × Nat)} {n : Nat}
    (h : inRanges ranges n = true) : ∃ r ∈ ranges, r.1 ≤ n ∧ n ≤ r.2 := by
  induction ranges with
  | nil => simp at h
  | cons r rest ih =>
    obtain ⟨low, high⟩ := r
    simp only [inRanges, Bool.and_eq_true, Bool.or_eq_true, decide_eq_true_eq] at h
    obtain ⟨hlow, hhigh | hrest⟩ := h
    · exact ⟨(low, high), by simp, hlow, hhigh⟩
    · obtain ⟨r, hr, hn⟩ := ih hrest
      exact ⟨r, by simp [hr], hn⟩

end Stencil.Text
