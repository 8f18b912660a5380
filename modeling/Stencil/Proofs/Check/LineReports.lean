import Mathlib.Data.List.Basic
import Stencil.Check.Difference

/-!
# What a report of differences lists

Two texts differ at a line if one has another line there than the other, or has none. A line that a
text does not have is shown as `missingLine`, and it is the shown lines that are compared. So a line
of the other text that reads just like that is taken for the missing one (`Mistaken`), and nothing
is said of it.

`IsReport differs` says that a report lists just the lines at which two texts differ in some sense.
Every report lists the lines that differ and are not mistaken; it lists **all lines that differ
exactly if none is mistaken** (`difference?_isReport_iff`). The texts `<missing>` and the empty one
are told apart by their line ends only (`not_isReport_placeholder`).
-/

namespace Stencil

section

variable {expected actual : List String} {i : Nat}

/-- Lists of lines differ at an index: they have different lines there, or just one of them has a
line. -/
def DifferAt (expected actual : List String) (i : Nat) : Prop :=
  expected[i]? ≠ actual[i]?

/-- Just one list has a line at an index, and that line reads like a missing one. -/
def Mistaken (expected actual : List String) (i : Nat) : Prop :=
  (expected[i]? = none ∧ actual[i]? = some missingLine) ∨
    (expected[i]? = some missingLine ∧ actual[i]? = none)

theorem Mistaken.differAt (h : Mistaken expected actual i) : DifferAt expected actual i := by
  unfold DifferAt
  rcases h with ⟨he, ha⟩ | ⟨he, ha⟩ <;> rw [he, ha] <;> simp

/-- **Lines are shown alike** if they do not differ, or if one of them is mistaken. -/
theorem shownLine_eq_iff :
    shownLine expected i = shownLine actual i ↔
      ¬ (DifferAt expected actual i ∧ ¬ Mistaken expected actual i) := by
  unfold DifferAt Mistaken shownLine
  -- each text has a line here or none; a missing one is shown by the placeholder
  cases expected[i]? with
  | none =>
    cases actual[i]? with
    | none => simp
    | some line => simp [eq_comm]
  | some line =>
    cases actual[i]? with
    | none => simp
    | some other => simp

/-- Behind the ends of both lists there is nothing to differ. -/
theorem DifferAt.lt_max (h : DifferAt expected actual i) :
    i < max expected.length actual.length := by
  by_contra hge
  obtain ⟨he, ha⟩ := Nat.max_le.1 (Nat.le_of_not_lt hge)
  exact h (by rw [List.getElem?_eq_none he, List.getElem?_eq_none ha])

theorem forall_not_differAt_iff : (∀ i, ¬ DifferAt expected actual i) ↔ expected = actual := by
  unfold DifferAt
  simp only [not_not]
  exact ⟨List.ext_getElem?, fun h _ => by rw [h]⟩

/-! ### Rows -/

/-- The row for the lines at an index. -/
def rowAt (expected actual : List String) (i : Nat) : LineDifference :=
  ⟨i + 1, shownLine expected i, shownLine actual i⟩

theorem lineDifferences_eq :
    lineDifferences expected actual =
      (List.range (max expected.length actual.length)).filterMap fun i =>
        if shownLine expected i = shownLine actual i then none
        else some (rowAt expected actual i) :=
  rfl

/-- **There is a row for each line that differs and is not mistaken**, and no other one. -/
theorem mem_lineDifferences {row : LineDifference} :
    row ∈ lineDifferences expected actual ↔
      ∃ i, (DifferAt expected actual i ∧ ¬ Mistaken expected actual i) ∧
        row = rowAt expected actual i := by
  rw [lineDifferences_eq, List.mem_filterMap]
  constructor
  · -- a row that is not shown is none, and every other one is that of its number
    rintro ⟨i, -, hi⟩
    split at hi
    · contradiction
    · next hshown => exact ⟨i, not_not.1 (shownLine_eq_iff.not.1 hshown), (Option.some.inj hi).symm⟩
  · rintro ⟨i, hdiffers, rfl⟩
    -- lines that differ are within the longer of the two texts
    refine ⟨i, List.mem_range.2 hdiffers.1.lt_max, ?_⟩
    rw [if_neg (shownLine_eq_iff.not.2 (not_not.2 hdiffers))]

/-- Rows come in the order of their lines. -/
theorem pairwise_lineDifferences :
    (lineDifferences expected actual).Pairwise (·.number < ·.number) := by
  -- a row bears its own number, counted from one
  have hnumber : ∀ i row,
      (if shownLine expected i = shownLine actual i then none
        else some (rowAt expected actual i)) = some row → row.number = i + 1 := by
    intro i row hrow
    split at hrow
    · contradiction
    · rw [← Option.some.inj hrow]
      rfl
  rw [lineDifferences_eq]
  refine List.pairwise_lt_range.filterMap _ fun i j hij row hrow row' hrow' => ?_
  rw [hnumber i row hrow, hnumber j row' hrow']
  exact Nat.succ_lt_succ hij

end

/-! ### Reports -/

section

variable {differs differs' : Nat → Prop} {expected actual : String}

/-- **A difference that lists the lines at which two texts differ**, in some sense of differing: it
has a row for each of them, in increasing order and numbered from one, and speaks of line ends if
there are none. -/
def Difference.Lists (differs : Nat → Prop) (expected actual : List String) : Difference → Prop
  | .lineEnds => ∀ i, ¬ differs i
  | .lines rows =>
    rows ≠ [] ∧ rows.Pairwise (·.number < ·.number) ∧
      ∀ row, row ∈ rows ↔ ∃ i, differs i ∧ row = rowAt expected actual i

theorem Difference.Lists.congr (h : ∀ i, differs i ↔ differs' i) {lines lines' : List String}
    {d : Difference} (hlists : d.Lists differs lines lines') : d.Lists differs' lines lines' := by
  obtain rfl : differs = differs' := funext fun i => propext (h i)
  exact hlists

/-- **A report on two texts**: there is none exactly if they are equal, and else it lists the lines
at which they differ. -/
structure IsReport (differs : Nat → Prop) (expected actual : String)
    (report : Option Difference) : Prop where
  eq_none_iff : report = none ↔ expected = actual
  lists : ∀ d, report = some d → d.Lists differs (Text.linesOf expected) (Text.linesOf actual)

/-- **Every report lists the lines that differ and are not mistaken.** -/
theorem isReport_difference? (expected actual : String) :
    IsReport (fun i => DifferAt (Text.linesOf expected) (Text.linesOf actual) i ∧
        ¬ Mistaken (Text.linesOf expected) (Text.linesOf actual) i)
      expected actual (difference? expected actual) := by
  unfold difference?
  split
  · -- equal texts have no report
    next heq => exact ⟨iff_of_true rfl heq, fun d hd => by contradiction⟩
  · next hne =>
    split
    · -- no row differs, so the texts differ in their line ends only
      next hnone =>
      refine ⟨iff_of_false (Option.some_ne_none _) hne, fun d hd => ?_⟩
      obtain rfl := Option.some.inj hd
      intro i hi
      have hrow := mem_lineDifferences.2 ⟨i, hi, rfl⟩
      rw [hnone] at hrow
      exact List.not_mem_nil hrow
    · -- there are rows, and they are all of them in order
      next hsome =>
      refine ⟨iff_of_false (Option.some_ne_none _) hne, fun d hd => ?_⟩
      obtain rfl := Option.some.inj hd
      exact ⟨hsome, pairwise_lineDifferences, fun row => mem_lineDifferences⟩

/-- A mistaken line is not listed, so a report that lists all lines that differ has none. -/
theorem IsReport.not_mistaken {i : Nat}
    (h : IsReport (DifferAt (Text.linesOf expected) (Text.linesOf actual)) expected actual
      (difference? expected actual)) :
    ¬ Mistaken (Text.linesOf expected) (Text.linesOf actual) i := by
  intro hi
  have hne : expected ≠ actual := fun heq => hi.differAt (by rw [heq])
  obtain ⟨d, hd⟩ := Option.ne_none_iff_exists'.1 (h.eq_none_iff.not.2 hne)
  have hall := h.lists d hd
  have hlisted := (isReport_difference? expected actual).lists d hd
  cases d with
  | lineEnds => exact hall i hi.differAt
  | lines rows =>
    -- the row is there by the one account, and by the other it is that of a line not mistaken
    obtain ⟨j, ⟨-, hj⟩, hrow⟩ := (hlisted.2.2 _).1 ((hall.2.2 _).2 ⟨i, hi.differAt, rfl⟩)
    obtain rfl : i = j := Nat.succ.inj (congrArg LineDifference.number hrow)
    exact hj hi

/-- **A report lists the lines that differ and are not mistaken**, so it lists all lines that differ
exactly if none of them is mistaken. -/
theorem difference?_isReport_iff (expected actual : String) :
    IsReport (fun i => DifferAt (Text.linesOf expected) (Text.linesOf actual) i ∧
          ¬ Mistaken (Text.linesOf expected) (Text.linesOf actual) i)
        expected actual (difference? expected actual) ∧
      (IsReport (DifferAt (Text.linesOf expected) (Text.linesOf actual)) expected actual
          (difference? expected actual) ↔
        ∀ i, ¬ Mistaken (Text.linesOf expected) (Text.linesOf actual) i) := by
  have hreport := isReport_difference? expected actual
  -- where no line is mistaken, to differ and to differ so that it shows are the same
  refine ⟨hreport, fun hall i => hall.not_mistaken, fun hnone => ?_⟩
  exact ⟨hreport.eq_none_iff, fun d hd =>
    (hreport.lists d hd).congr fun i => and_iff_left (hnone i)⟩

end

/-- A line that reads like a missing one, against no line at all: the lines differ, but the report
speaks of line ends. -/
theorem not_isReport_placeholder :
    difference? "<missing>\n" "" = some .lineEnds ∧
      Text.linesOf "<missing>\n" ≠ Text.linesOf "" ∧
      ¬ IsReport (DifferAt (Text.linesOf "<missing>\n") (Text.linesOf "")) "<missing>\n" ""
        (difference? "<missing>\n" "") := by
  have hreport : difference? "<missing>\n" "" = some .lineEnds := by decide +kernel
  have hdiffer : Text.linesOf "<missing>\n" ≠ Text.linesOf "" := by decide +kernel
  refine ⟨hreport, hdiffer, fun h => ?_⟩
  -- only line ends are reported, so by the claim no line would differ
  rw [hreport] at h
  exact hdiffer (forall_not_differAt_iff.1 (h.lists .lineEnds rfl))

end Stencil
