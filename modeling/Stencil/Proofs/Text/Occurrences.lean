import Stencil.Text.Span

/-!
# Where a text occurs in another

`occurrences` goes through a text from left to right, and takes each occurrence that it meets if
the one before it has ended by then. So it finds nothing in a text that does not hold the needle
(`occurrencesFrom_eq_nil`), and else the leftmost occurrence first, and what is found in the rest of
the text behind that (`IsLeftmost.occurrencesFrom_eq`). The offsets count bytes, and they are in the
same order as the places that they stand for (`byteLength_mono`).
-/

namespace Stencil.Text

/-! ### Bytes -/

theorem byteLength_eq (s : List Char) : byteLength s = (String.ofList s).utf8ByteSize := by
  induction s with
  | nil => rfl
  | cons c s ih =>
    rw [byteLength_cons, ih, String.ofList_cons, String.utf8ByteSize_append,
      String.utf8ByteSize_singleton]

theorem byteLength_toList (s : String) : byteLength s.toList = s.utf8ByteSize := by
  rw [byteLength_eq, String.ofList_toList]

theorem byteLength_le_of_prefix {u v : List Char} (h : u <+: v) : byteLength u ≤ byteLength v := by
  obtain ⟨w, rfl⟩ := h
  rw [byteLength_append]
  exact Nat.le_add_right _ _

/-- Of two places in a text the one with fewer characters before it has fewer bytes before it. -/
theorem byteLength_mono {u u' v v' : List Char} (h : u ++ v = u' ++ v')
    (hle : u.length ≤ u'.length) : byteLength u ≤ byteLength u' := by
  have hprefix : u <+: u' ++ v' := ⟨v, h⟩
  exact byteLength_le_of_prefix
    (List.prefix_of_prefix_length_le hprefix (List.prefix_append u' v') hle)

theorem eq_nil_of_byteLength_eq_zero {s : List Char} (h : byteLength s = 0) : s = [] := by
  cases s with
  | nil => rfl
  | cons c s =>
    have hc := c.utf8Size_pos
    rw [byteLength_cons] at h
    omega

/-- And one with no more bytes before it has no more characters before it. -/
theorem prefix_of_byteLength_le {u u' v v' : List Char} (h : u ++ v = u' ++ v')
    (hle : byteLength u ≤ byteLength u') : u <+: u' := by
  have hu : u <+: u' ++ v' := ⟨v, h⟩
  rcases List.prefix_or_prefix_of_prefix hu (List.prefix_append u' v') with hprefix | ⟨w, rfl⟩
  · exact hprefix
  · -- what `u` has more is no byte
    rw [byteLength_append] at hle
    obtain rfl : w = [] := eq_nil_of_byteLength_eq_zero (by omega)
    exact ⟨[], by rw [List.append_nil, List.append_nil]⟩

/-! ### The leftmost occurrence -/

/-- **The leftmost occurrence of a text in another**: what stands before it, and what behind. -/
structure IsLeftmost (needle text before after : List Char) : Prop where
  split : text = before ++ needle ++ after
  le_length : ∀ {before' after' : List Char}, text = before' ++ needle ++ after' →
    before.length ≤ before'.length

theorem exists_isLeftmost {needle text : List Char} (h : needle <:+: text) :
    ∃ before after, IsLeftmost needle text before after := by
  induction text with
  | nil =>
    obtain rfl := List.infix_nil.1 h
    exact ⟨[], [], rfl, fun _ => Nat.zero_le _⟩
  | cons c text ih =>
    by_cases hhere : needle <+: c :: text
    · obtain ⟨after, hafter⟩ := hhere
      exact ⟨[], after, hafter.symm, fun _ => Nat.zero_le _⟩
    obtain ⟨before, after, hsplit, hleast⟩ := ih ((List.infix_cons_iff.1 h).resolve_left hhere)
    refine ⟨c :: before, after, by rw [hsplit]; rfl, ?_⟩
    -- nothing occurs in front, so everything that does is behind the first character
    intro before' after' heq
    cases before' with
    | nil => exact absurd ⟨after', heq.symm⟩ hhere
    | cons d before' =>
      obtain ⟨-, htext⟩ := List.cons.inj heq
      exact Nat.succ_le_succ (hleast htext)

/-! ### What is found -/

theorem occurrencesFrom_nil (needle : List Char) (offset skip : Nat) :
    occurrencesFrom needle offset skip [] = [] := by
  unfold occurrencesFrom
  rfl

/-- Characters that belong to an occurrence are passed over. -/
theorem occurrencesFrom_skip (needle : List Char) (offset : Nat) (u v : List Char) :
    occurrencesFrom needle offset u.length (u ++ v) =
      occurrencesFrom needle (offset + byteLength u) 0 v := by
  induction u generalizing offset with
  | nil => rfl
  | cons c u ih =>
    rw [List.length_cons, List.cons_append, occurrencesFrom, ih, byteLength_cons, Nat.add_assoc]

theorem occurrencesFrom_of_not_begins {needle : List Char} {c : Char} {rest : List Char}
    (h : ¬ needle <+: c :: rest) (offset : Nat) :
    occurrencesFrom needle offset 0 (c :: rest) =
      occurrencesFrom needle (offset + c.utf8Size) 0 rest := by
  rw [occurrencesFrom, if_neg]
  rwa [List.isPrefixOf_iff_prefix]

theorem occurrencesFrom_eq_nil {needle text : List Char} (h : ¬ needle <:+: text) (offset : Nat) :
    occurrencesFrom needle offset 0 text = [] := by
  induction text generalizing offset with
  | nil => exact occurrencesFrom_nil needle offset 0
  | cons c text ih =>
    rw [List.infix_cons_iff, not_or] at h
    rw [occurrencesFrom_of_not_begins h.1, ih h.2]

/-- **The leftmost occurrence is found first**, and then what is found behind it. -/
theorem IsLeftmost.occurrencesFrom_eq {needle text before after : List Char}
    (h : IsLeftmost needle text before after) (hne : needle ≠ []) (offset : Nat) :
    occurrencesFrom needle offset 0 text = (offset + byteLength before) ::
      occurrencesFrom needle (offset + byteLength (before ++ needle)) 0 after := by
  obtain ⟨rfl, hleast⟩ := h
  induction before generalizing offset with
  | nil =>
    -- the needle begins the text: the finder tells this place and goes on behind the needle
    obtain ⟨c, rest, rfl⟩ := List.exists_cons_of_ne_nil hne
    have hprefix : (c :: rest).isPrefixOf (c :: (rest ++ after)) = true :=
      List.isPrefixOf_iff_prefix.2 (List.prefix_append (c :: rest) after)
    rw [List.nil_append, List.cons_append, occurrencesFrom, if_pos hprefix, List.length_cons,
      Nat.add_sub_cancel, occurrencesFrom_skip, byteLength_nil, Nat.add_zero, byteLength_cons,
      Nat.add_assoc]
  | cons c before ih =>
    -- the needle begins nowhere before, so the finder drops a character, and the rest is as it was
    have hnot : ¬ needle <+: c :: (before ++ needle ++ after) := by
      rintro ⟨after', heq⟩
      have hle : (c :: before).length ≤ ([] : List Char).length := hleast heq.symm
      exact absurd hle (Nat.not_succ_le_zero _)
    -- the split of the rest is leftmost as well, since each split of it is one of the whole text
    have hrest : ∀ {before' after' : List Char},
        before ++ needle ++ after = before' ++ needle ++ after' →
          before.length ≤ before'.length := by
      intro before' after' heq
      have hle : (c :: before).length ≤ (c :: before').length :=
        hleast (congrArg (c :: ·) heq)
      exact Nat.le_of_succ_le_succ hle
    rw [List.cons_append, List.cons_append, occurrencesFrom_of_not_begins hnot, ih _ hrest,
      byteLength_cons, byteLength_cons, Nat.add_assoc, Nat.add_assoc]

end Stencil.Text
