import Stencil.Text.Space

/-!
# Lines without layout

`normalLines` is what is left of a text when its layout is taken away: its lines without the spaces
before them, without those that are empty, and with the closing brace of an empty block on a line of
its own. What follows a line feed is read by itself (`normalLines_append_lineFeed`), so a text that
is put together from whole lines has the normal lines of its parts
(`WholeLines.normalLines_append`).
-/

namespace Stencil.Text

/-- A line without the spaces before it. -/
def unindent (line : List Char) : List Char :=
  line.dropWhile (· = ' ')

/-- A line that ends in a block with nothing in it, as two lines. -/
def breakBlock (line : List Char) : List (List Char) :=
  if ['\x7b', '\x7d'] <:+ line then [line.dropLast, ['\x7d']] else [line]

/-- **The lines of a text without its layout.** -/
def normalLines (s : List Char) : List (List Char) :=
  ((s.splitOn '\n').flatMap fun line => breakBlock (unindent line)).filter (· ≠ [])

theorem normalLines_nil : normalLines [] = [] := by
  decide

/-- What stands on either side of a line feed is read by itself. -/
theorem normalLines_append_lineFeed (u v : List Char) :
    normalLines (u ++ '\n' :: v) = normalLines u ++ normalLines v := by
  unfold normalLines
  rw [List.splitOn_append_cons_self, List.flatMap_append, List.filter_append]

theorem normalLines_cons_lineFeed (u : List Char) : normalLines ('\n' :: u) = normalLines u := by
  rw [← List.nil_append ('\n' :: u), normalLines_append_lineFeed, normalLines_nil, List.nil_append]

theorem normalLines_cons_space (u : List Char) : normalLines (' ' :: u) = normalLines u := by
  obtain ⟨first, others, hsplit⟩ := List.exists_cons_of_ne_nil (List.splitOn_ne_nil '\n' u)
  -- it stands in the first line, and is taken away with the spaces there
  have hcons : (' ' :: u).splitOn '\n' = (' ' :: first) :: others := by
    rw [List.splitOn_cons_eq_if_modifyHead, if_neg (by decide), hsplit, List.modifyHead_cons]
  have hunindent : unindent (' ' :: first) = unindent first :=
    List.dropWhile_cons_of_pos (by decide)
  unfold normalLines
  rw [hcons, hsplit, List.flatMap_cons, List.flatMap_cons, hunindent]

theorem normalLines_replicate_append (n : Nat) (u : List Char) :
    normalLines (List.replicate n ' ' ++ u) = normalLines u := by
  induction n with
  | zero => rfl
  | succ n ih => rw [List.replicate_succ, List.cons_append, normalLines_cons_space, ih]

/-! ### Single lines -/

/-- **A line without layout of its own**: something that begins with no space and ends with no empty
block. -/
structure IsPlain (line : List Char) : Prop where
  ne_nil : line ≠ []
  lineFeed : '\n' ∉ line
  head : ∀ c ∈ line.head?, c ≠ ' '
  block : ¬ ['\x7b', '\x7d'] <:+ line

theorem IsPlain.unindent_eq {line : List Char} (h : IsPlain line) : unindent line = line := by
  obtain ⟨c, rest, rfl⟩ := List.exists_cons_of_ne_nil h.ne_nil
  exact List.dropWhile_cons_of_neg (by simpa using h.head c rfl)

theorem IsPlain.normalLines_eq {line : List Char} (h : IsPlain line) :
    normalLines line = [line] := by
  unfold normalLines breakBlock
  rw [List.splitOn_eq_singleton h.lineFeed, List.flatMap_singleton, h.unindent_eq,
    if_neg h.block, List.filter_cons_of_pos (by simpa using h.ne_nil), List.filter_nil]

/-- The closing brace of an empty block gets a line of its own. -/
theorem normalLines_emptyBlock {line : List Char} (h : IsPlain (line ++ ['\x7b'])) :
    normalLines (line ++ ['\x7b', '\x7d']) = [line ++ ['\x7b'], ['\x7d']] := by
  -- both braces are on one line, and this one has no white space in front
  have hfeed : '\n' ∉ line ++ ['\x7b', '\x7d'] := by
    have hopen := h.lineFeed
    simp only [List.mem_append, List.mem_cons, List.not_mem_nil] at hopen ⊢
    exact fun hmem => hopen (hmem.imp_right fun hc => hc.imp_right (by decide))
  have hunindent : unindent (line ++ ['\x7b', '\x7d']) = line ++ ['\x7b', '\x7d'] := by
    cases line with
    | nil => decide
    | cons c rest => exact List.dropWhile_cons_of_neg (by simpa using h.head c rfl)
  unfold normalLines breakBlock
  rw [List.splitOn_eq_singleton hfeed, List.flatMap_singleton, hunindent,
    if_pos (List.suffix_append line _)]
  -- the brace that is taken off leaves a line that opens a block
  have hdrop : (line ++ ['\x7b', '\x7d']).dropLast = line ++ ['\x7b'] := by
    rw [List.dropLast_append_of_ne_nil (List.cons_ne_nil _ _)]
    rfl
  rw [hdrop, List.filter_cons_of_pos (by simp), List.filter_cons_of_pos (by simp),
    List.filter_nil]

/-! ### Whole lines -/

/-- **A text of whole lines**: there is nothing behind its last line feed. -/
def WholeLines (u : List Char) : Prop :=
  u = [] ∨ ['\n'] <:+ u

theorem wholeLines_append_lineFeed (u : List Char) : WholeLines (u ++ ['\n']) :=
  Or.inr (List.suffix_append u _)

theorem WholeLines.append {u v : List Char} (hu : WholeLines u) (hv : WholeLines v) :
    WholeLines (u ++ v) := by
  rcases hv with rfl | hv
  · rwa [List.append_nil]
  · exact Or.inr (hv.trans (List.suffix_append u v))

/-- What follows whole lines is read by itself. -/
theorem WholeLines.normalLines_append {u : List Char} (h : WholeLines u) (v : List Char) :
    normalLines (u ++ v) = normalLines u ++ normalLines v := by
  rcases h with rfl | ⟨line, rfl⟩
  · rw [normalLines_nil]
    rfl
  · rw [List.append_assoc, List.singleton_append, normalLines_append_lineFeed,
      normalLines_append_lineFeed, normalLines_nil, List.append_nil]

theorem wholeLines_flatMap {α : Type} {f : α → List Char} {l : List α}
    (h : ∀ a ∈ l, WholeLines (f a)) : WholeLines (l.flatMap f) := by
  induction l with
  | nil => exact Or.inl rfl
  | cons a l ih =>
    rw [List.flatMap_cons]
    exact (h a List.mem_cons_self).append (ih fun b hb => h b (List.mem_cons_of_mem _ hb))

theorem normalLines_flatMap {α : Type} {f : α → List Char} {l : List α}
    (h : ∀ a ∈ l, WholeLines (f a)) :
    normalLines (l.flatMap f) = l.flatMap fun a => normalLines (f a) := by
  induction l with
  | nil => exact normalLines_nil
  | cons a l ih =>
    rw [List.flatMap_cons, List.flatMap_cons, (h a List.mem_cons_self).normalLines_append,
      ih fun b hb => h b (List.mem_cons_of_mem _ hb)]

end Stencil.Text
