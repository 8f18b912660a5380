import Stencil.Proofs.Text.NormalLines

/-!
# Texts at the heads of lines

A text may hold others at the heads of its lines, in order: each stands behind a line feed and some
blanks, and the next one comes behind it (`HeadsLines`). So that the first line is like the others,
a line feed is put before the whole text. Texts that are put together hold what their parts do
(`HeadsLines.append`), where the line feed at the end of one part is that before the next.
-/

namespace Stencil.Text

/-- **Texts at the heads of lines**, in order. What stands between them and behind them, on the
same line or on others, is left open. -/
inductive HeadsLines : List (List Char) → List Char → Prop
  | nil (u : List Char) : HeadsLines [] u
  | cons {head : List Char} {heads : List (List Char)} {behind : List Char} (before : List Char)
      (indent : Nat) (h : HeadsLines heads behind) :
      HeadsLines (head :: heads)
        (before ++ '\n' :: (List.replicate indent ' ' ++ (head ++ behind)))

namespace HeadsLines

variable {α : Type} {heads heads' : List (List Char)} {head u v : List Char}

/-- A line with a text at its head. -/
theorem line (indent : Nat) (head behind : List Char) :
    HeadsLines [head] ('\n' :: (List.replicate indent ' ' ++ (head ++ behind))) :=
  .cons [] indent (.nil behind)

/-- A line that is nothing but a text. -/
theorem lone (indent : Nat) (head : List Char) :
    HeadsLines [head] ('\n' :: (List.replicate indent ' ' ++ head)) := by
  have hline := line indent head []
  rwa [List.append_nil] at hline

theorem append_left (h : HeadsLines heads v) (u : List Char) : HeadsLines heads (u ++ v) := by
  cases h with
  | nil v => exact .nil _
  | cons before indent h =>
    rw [← List.append_assoc]
    exact .cons (u ++ before) indent h

/-- Texts that are put together hold what both hold, one after the other. -/
theorem append (hu : HeadsLines heads u) (hv : HeadsLines heads' v) :
    HeadsLines (heads ++ heads') (u ++ v) := by
  -- what stands behind the last text of the one is before the first text of the other
  induction hu with
  | nil u => exact hv.append_left u
  | cons before indent _ ih =>
    simp only [List.append_assoc, List.cons_append]
    exact .cons before indent ih

/-- What stands in whole lines before a text is no matter. -/
theorem behind_wholeLines (hu : WholeLines u) (hv : HeadsLines heads ('\n' :: v)) :
    HeadsLines heads ('\n' :: (u ++ v)) := by
  rcases hu with rfl | ⟨lines, rfl⟩
  · exact hv
  · rw [List.append_assoc, ← List.cons_append]
    exact hv.append_left _

/-- Lines that one text heads come before lines that others head. -/
theorem cons_lines (hu : HeadsLines [head] ('\n' :: u)) (hv : HeadsLines heads ('\n' :: v)) :
    HeadsLines (head :: heads) ('\n' :: (u ++ '\n' :: v)) :=
  hu.append hv

/-- Parts that are whole lines and have a text at the head of the first of them. -/
theorem flatMap {text part : α → List Char} {l : List α}
    (h : ∀ a ∈ l, ∃ lines, part a = lines ++ ['\n'] ∧ HeadsLines [text a] ('\n' :: lines))
    (behind : List Char) : HeadsLines (l.map text) ('\n' :: (l.flatMap part ++ behind)) := by
  induction l with
  | nil => exact .nil _
  | cons a l ih =>
    obtain ⟨lines, hlines, ha⟩ := h a List.mem_cons_self
    -- the line feed that ends the part stands before the first line of the next one
    rw [List.flatMap_cons, hlines, List.append_assoc, List.append_assoc, List.map_cons]
    exact ha.cons_lines (ih fun b hb => h b (List.mem_cons_of_mem _ hb))

end HeadsLines

end Stencil.Text
