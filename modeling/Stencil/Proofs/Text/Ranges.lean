import Mathlib.Data.List.Chain
import Stencil.Text.Range

/-!
# Sets of code points compared

`inRanges` stops early, so it finds a number in the ranges of a list (`Within`) only if the ranges
come in order (`inRanges_iff`). `without` takes the ranges of one list out of those of another. It
goes through both lists once, which is quick enough for the tables of whole properties, and what it
leaves covers everything that the second list does not (`Within.or_without`). So a set is part of
another one if nothing is left.
-/

namespace Stencil.Text

/-- A number lies in one of some ranges. -/
def Within (ranges : List (Nat × Nat)) (n : Nat) : Prop :=
  ∃ r ∈ ranges, r.1 ≤ n ∧ n ≤ r.2

variable {ranges others table : List (Nat × Nat)} {n : Nat}

theorem not_within_nil : ¬ Within [] n :=
  fun ⟨_, hmem, _⟩ => List.not_mem_nil hmem

theorem within_cons {low high : Nat} :
    Within ((low, high) :: ranges) n ↔ (low ≤ n ∧ n ≤ high) ∨ Within ranges n := by
  unfold Within
  rw [List.exists_mem_cons_iff]

theorem within_append : Within (ranges ++ others) n ↔ Within ranges n ∨ Within others n := by
  unfold Within
  simp only [List.mem_append, or_and_right, exists_or]

/-! ### Looking up -/

/-- Each range begins where the one before it does or later. -/
def Ordered (ranges : List (Nat × Nat)) : Prop :=
  ranges.IsChain (·.1 ≤ ·.1)

instance : Decidable (Ordered ranges) :=
  inferInstanceAs (Decidable (ranges.IsChain (·.1 ≤ ·.1)))

/-- **In a list in order a number is found** if it lies in one of the ranges. -/
theorem inRanges_iff (h : Ordered ranges) : inRanges ranges n = true ↔ Within ranges n := by
  refine ⟨exists_range_of_inRanges, fun hwithin => ?_⟩
  have hpairs : ranges.Pairwise (·.1 ≤ ·.1) := by
    have htrans : IsTrans (Nat × Nat) (·.1 ≤ ·.1) := ⟨fun _ _ _ => Nat.le_trans⟩
    exact List.isChain_iff_pairwise.1 h
  clear h
  -- the look-up stops at a range that begins beyond the number, so the order is needed for the
  -- later ranges
  induction ranges with
  | nil => exact absurd hwithin not_within_nil
  | cons r rest ih =>
    obtain ⟨low, high⟩ := r
    obtain ⟨hfirst, hrest⟩ := List.pairwise_cons.1 hpairs
    simp only [inRanges, Bool.and_eq_true, Bool.or_eq_true, decide_eq_true_eq]
    rcases within_cons.1 hwithin with ⟨hlow, hhigh⟩ | hlater
    · exact ⟨hlow, Or.inl hhigh⟩
    · -- a number in a later range is not below the first one
      have hlow : low ≤ n := by
        obtain ⟨r, hr, hle, -⟩ := hlater
        exact Nat.le_trans (hfirst r hr) hle
      exact ⟨hlow, Or.inr (ih hlater hrest)⟩

/-! ### Taking ranges away -/

/-- The numbers from `low` on and below `stop`, as ranges. -/
def interval (low stop : Nat) : List (Nat × Nat) :=
  if low < stop then [(low, stop - 1)] else []

theorem within_interval {low stop : Nat} : Within (interval low stop) n ↔ low ≤ n ∧ n < stop := by
  unfold interval
  split
  · rw [within_cons, or_iff_left not_within_nil]
    omega
  · exact iff_of_false not_within_nil fun h => by omega

/-- What ranges in order leave of the numbers from `low` to `high`, and those of the ranges that may
go beyond. -/
def cutOut (high : Nat) : Nat → List (Nat × Nat) → List (Nat × Nat) × List (Nat × Nat)
  | low, [] => (interval low (high + 1), [])
  | low, (a, b) :: rest =>
    if high < a then (interval low (high + 1), (a, b) :: rest)
    else if high < b then (interval low a, (a, b) :: rest)
    else
      let behind := cutOut high (max low (b + 1)) rest
      (interval low a ++ behind.1, behind.2)

/-- What some ranges have that others do not have, if both are in order. -/
def without : List (Nat × Nat) → List (Nat × Nat) → List (Nat × Nat)
  | [], _ => []
  | (low, high) :: rest, table =>
    let first := cutOut high low table
    first.1 ++ without rest first.2

/-- A number that is not left was taken out. -/
theorem within_or_cutOut {low high : Nat} (hlow : low ≤ n) (hhigh : n ≤ high) :
    Within table n ∨ Within (cutOut high low table).1 n := by
  induction table generalizing low with
  | nil => exact Or.inr (within_interval.2 ⟨hlow, Nat.lt_succ_of_le hhigh⟩)
  | cons r rest ih =>
    obtain ⟨a, b⟩ := r
    rw [within_cons, cutOut]
    by_cases hbefore : n < a
    · -- it is before the first range, and so it is left
      right
      have hfront : Within (interval low a) n := within_interval.2 ⟨hlow, hbefore⟩
      split
      · exact within_interval.2 ⟨hlow, Nat.lt_succ_of_le hhigh⟩
      split
      · exact hfront
      · exact within_append.2 (Or.inl hfront)
    by_cases hin : n ≤ b
    · exact Or.inl (Or.inl ⟨Nat.le_of_not_lt hbefore, hin⟩)
    -- it is behind the first range, and so the others decide
    rw [if_neg (by omega), if_neg (by omega)]
    have hbehind : max low (b + 1) ≤ n := by omega
    rcases ih hbehind with hrest | hleft
    · exact Or.inl (Or.inr hrest)
    · exact Or.inr (within_append.2 (Or.inr hleft))

theorem within_of_cutOut {low high : Nat} (h : Within (cutOut high low table).2 n) :
    Within table n := by
  induction table generalizing low with
  | nil => exact h
  | cons r rest ih =>
    -- what is left of the table is an end of it, at which no range has yet been passed
    obtain ⟨a, b⟩ := r
    rw [cutOut] at h
    split at h
    · exact h
    split at h
    · exact h
    · exact within_cons.2 (Or.inr (ih h))

/-- **What some ranges have** is in others or is what they have without those. -/
theorem Within.or_without (h : Within ranges n) (table : List (Nat × Nat)) :
    Within table n ∨ Within (without ranges table) n := by
  induction ranges generalizing table with
  | nil => exact absurd h not_within_nil
  | cons r rest ih =>
    obtain ⟨low, high⟩ := r
    rw [without, within_append]
    -- a number of this range is in the table or left over; one of a later range meets what is left
    -- of the table
    rcases within_cons.1 h with ⟨hlow, hhigh⟩ | hrest
    · exact (within_or_cutOut hlow hhigh).imp id Or.inl
    · exact (ih hrest (cutOut high low table).2).imp within_of_cutOut Or.inr

end Stencil.Text
