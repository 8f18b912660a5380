import Stencil.Text.Lines

/-!
# Pieces of a text

A text is its pieces with separators between them (`List.intercalate_splitOn`). So what is in a
piece is in the text (`infix_of_mem_splitOn`), what is in the text is in a piece or a separator
(`mem_splitOn_or_eq`), and to join two lists of pieces is to put a separator between the two joined
texts (`intercalate_append`). Texts that a separator ends one by one are the pieces of what they
make together (`splitOn_flatMap`), and so are texts with separators between them, if there are any
(`splitOn_toList_intercalate`). The lines of a text are pieces but for a carriage return
(`infix_of_mem_linesOf`).
-/

namespace Stencil.Text

variable {α : Type}

/-- **The first item of a kind splits a list in one way.** -/
theorem append_cons_inj_of {P : α → Prop} {a b : α} {s t u v : List α} (hs : ∀ x ∈ s, ¬ P x)
    (ht : ∀ x ∈ t, ¬ P x) (ha : P a) (hb : P b) (h : s ++ a :: u = t ++ b :: v) :
    s = t ∧ a = b ∧ u = v := by
  -- along the two splits together, for as long as both go on before their items
  induction s generalizing t with
  | nil =>
    cases t with
    | nil => exact ⟨rfl, List.cons_eq_cons.1 h⟩
    | cons c t =>
      -- the first item of the kind would be among those before the other one
      obtain ⟨rfl, -⟩ := List.cons_eq_cons.1 h
      exact absurd ha (ht _ List.mem_cons_self)
  | cons c s ih =>
    cases t with
    | nil =>
      -- the same the other way round
      obtain ⟨rfl, -⟩ := List.cons_eq_cons.1 h
      exact absurd hb (hs _ List.mem_cons_self)
    | cons e t =>
      obtain ⟨rfl, htail⟩ := List.cons_eq_cons.1 h
      obtain ⟨rfl, hitem, hrest⟩ := ih (fun x hx => hs x (List.mem_cons_of_mem _ hx))
        (fun x hx => ht x (List.mem_cons_of_mem _ hx)) htail
      exact ⟨rfl, hitem, hrest⟩

/-- What comes before the first delimiter and what comes behind it are determined. -/
theorem append_cons_inj {d : α} {s t u v : List α} (hs : d ∉ s) (ht : d ∉ t)
    (h : s ++ d :: u = t ++ d :: v) : s = t ∧ u = v := by
  have hother : ∀ {l : List α}, d ∉ l → ∀ x ∈ l, ¬ x = d := by
    rintro l hl x hx rfl
    exact hl hx
  obtain ⟨hbefore, -, hbehind⟩ := append_cons_inj_of (hother hs) (hother ht) rfl rfl h
  exact ⟨hbefore, hbehind⟩

/-- Joining the pieces of two texts puts one separator between the texts. -/
theorem intercalate_append {sep : List α} {us vs : List (List α)} (hu : us ≠ []) (hv : vs ≠ []) :
    sep.intercalate (us ++ vs) = sep.intercalate us ++ sep ++ sep.intercalate vs := by
  induction us with
  | nil => exact absurd rfl hu
  | cons u rest ih =>
    rw [List.cons_append]
    by_cases hrest : rest = []
    · -- the first list had one text, so this is its end
      subst hrest
      rw [List.nil_append, List.intercalate_cons_of_ne_nil hv, List.intercalate_singleton]
    · rw [List.intercalate_cons_of_ne_nil (List.append_ne_nil_of_left_ne_nil hrest vs),
        List.intercalate_cons_of_ne_nil hrest, ih hrest]
      simp only [List.append_assoc]

/-- A piece is a part of the joined text. -/
theorem infix_intercalate {sep : List α} {pieces : List (List α)} {piece : List α}
    (h : piece ∈ pieces) : piece <:+: sep.intercalate pieces := by
  obtain ⟨before, behind, rfl⟩ := List.append_of_mem h
  -- it begins the text that is joined from here on, and that text ends the whole one
  have hend : piece <+: sep.intercalate (piece :: behind) := by
    cases behind with
    | nil => exact List.intercalate_singleton.symm ▸ List.prefix_rfl
    | cons next others =>
      rw [List.intercalate_cons_cons, List.append_assoc]
      exact List.prefix_append piece _
  cases before with
  | nil => exact hend.isInfix
  | cons first others =>
    rw [intercalate_append (List.cons_ne_nil _ _) (List.cons_ne_nil _ _)]
    exact hend.isInfix.trans (List.suffix_append _ _).isInfix

/-- A character of a joined text is in one of its pieces or in a separator. -/
theorem mem_intercalate {sep : List α} {pieces : List (List α)} {c : α}
    (h : c ∈ sep.intercalate pieces) : c ∈ sep ∨ ∃ piece ∈ pieces, c ∈ piece := by
  induction pieces with
  | nil => exact absurd h List.not_mem_nil
  | cons piece rest ih =>
    -- whether a separator follows depends on what is behind the piece
    cases rest with
    | nil =>
      rw [List.intercalate_singleton] at h
      exact Or.inr ⟨piece, List.mem_cons_self, h⟩
    | cons next others =>
      rw [List.intercalate_cons_cons, List.append_assoc, List.mem_append, List.mem_append] at h
      rcases h with h | h | h
      · exact Or.inr ⟨piece, List.mem_cons_self, h⟩
      · exact Or.inl h
      · -- it is in what is joined behind the first piece and its separator
        refine (ih h).imp id ?_
        rintro ⟨p, hp, hc⟩
        exact ⟨p, List.mem_cons_of_mem _ hp, hc⟩

variable [BEq α] [LawfulBEq α]

/-- What a text is split into is part of it. -/
theorem infix_of_mem_splitOn {sep : α} {s piece : List α} (h : piece ∈ s.splitOn sep) :
    piece <:+: s := by
  have hpart : piece <:+: [sep].intercalate (s.splitOn sep) := infix_intercalate h
  rwa [List.intercalate_splitOn] at hpart

/-- The separator is in no piece. -/
theorem not_mem_of_mem_splitOn {sep : α} {s piece : List α} (h : piece ∈ s.splitOn sep) :
    sep ∉ piece := by
  induction s generalizing piece with
  | nil =>
    rw [List.splitOn_nil, List.mem_singleton] at h
    rw [h]
    exact List.not_mem_nil
  | cons c s ih =>
    -- the first piece is the one that the next character goes into, or before which a new one
    -- begins
    obtain ⟨first, others, hsplit⟩ := List.exists_cons_of_ne_nil (List.splitOn_ne_nil sep s)
    rw [List.splitOn_cons_eq_if_modifyHead, hsplit] at h
    rw [hsplit] at ih
    split at h
    · -- the character is a separator: an empty piece is new, the others are as they were
      rcases List.mem_cons.1 h with rfl | h
      · exact List.not_mem_nil
      · exact ih h
    · next hc =>
      -- the character goes into the first piece, and it is no separator
      rcases List.mem_cons.1 h with rfl | h
      · rw [List.mem_cons, not_or]
        exact ⟨fun heq => hc (beq_iff_eq.2 heq.symm), ih List.mem_cons_self⟩
      · exact ih (List.mem_cons_of_mem _ h)

/-- A character of a text is a separator or in one of the pieces. -/
theorem mem_splitOn_or_eq {sep c : α} {s : List α} (h : c ∈ s) :
    c = sep ∨ ∃ piece ∈ s.splitOn sep, c ∈ piece := by
  have hjoined : c ∈ [sep].intercalate (s.splitOn sep) := by rwa [List.intercalate_splitOn]
  exact (mem_intercalate hjoined).imp (fun hc => List.mem_singleton.1 hc) id

/-- **What ends each of some texts splits them apart again**, if it is in none of them. Nothing is
left behind the last one. -/
theorem splitOn_flatMap {sep : α} {texts : List (List α)} (h : ∀ text ∈ texts, sep ∉ text) :
    (texts.flatMap (· ++ [sep])).splitOn sep = texts ++ [[]] := by
  induction texts with
  | nil => rw [List.flatMap_nil, List.splitOn_nil, List.nil_append]
  | cons text rest ih =>
    rw [List.forall_mem_cons] at h
    rw [List.flatMap_cons, List.append_assoc, List.singleton_append, List.splitOn_append_cons_self,
      List.splitOn_eq_singleton h.1, ih h.2, List.singleton_append, List.cons_append]

/-- **Texts that were joined with a separator** are split apart again, if it is in none of them. -/
theorem splitOn_toList_intercalate {separator : String} {sep : Char}
    (hsep : separator.toList = [sep]) {texts : List String} (hne : texts ≠ [])
    (h : ∀ text ∈ texts, sep ∉ text.toList) :
    ((separator.intercalate texts).toList.splitOn sep).map String.ofList = texts := by
  -- the pieces are texts, and the list of texts is that of their characters
  have hpieces : ∀ piece ∈ texts.map String.toList, sep ∉ piece := by
    intro piece hpiece
    obtain ⟨text, htext, rfl⟩ := List.mem_map.1 hpiece
    exact h text htext
  rw [String.toList_intercalate, hsep,
    List.splitOn_intercalate sep hpieces (by rwa [Ne, List.map_eq_nil_iff]), List.map_map]
  simp only [Function.comp_def, String.ofList_toList, List.map_id']

/-! ### Lines -/

omit [BEq α] [LawfulBEq α] in
theorem prefix_dropReturn (line : List Char) : dropReturn line <+: line := by
  unfold dropReturn
  split
  · exact List.dropLast_prefix line
  · exact List.prefix_rfl

theorem infix_of_mem_linesOfPieces {pieces : List (List Char)} {line : List Char}
    (h : line ∈ linesOfPieces pieces) : ∃ piece ∈ pieces, line <:+: piece := by
  fun_induction linesOfPieces pieces with
  | case1 => exact absurd h List.not_mem_nil
  | case2 last hlast => exact absurd h List.not_mem_nil
  | case3 last hlast =>
    -- no line feed follows the last line, so it keeps its carriage return
    rw [List.mem_singleton.1 h]
    exact ⟨last, List.mem_cons_self, List.infix_rfl⟩
  | case4 piece rest hrest ih =>
    rcases List.mem_cons.1 h with rfl | h
    · exact ⟨piece, List.mem_cons_self, (prefix_dropReturn piece).isInfix⟩
    · obtain ⟨p, hp, hline⟩ := ih h
      exact ⟨p, List.mem_cons_of_mem _ hp, hline⟩

/-- No line has a line feed. -/
theorem lineFeed_not_mem_of_mem_linesOf {s line : String} (h : line ∈ linesOf s) :
    '\n' ∉ line.toList := by
  obtain ⟨chars, hchars, rfl⟩ := List.mem_map.1 h
  obtain ⟨piece, hpiece, hline⟩ := infix_of_mem_linesOfPieces hchars
  rw [String.toList_ofList]
  exact fun hmem => not_mem_of_mem_splitOn hpiece (hline.mem hmem)

/-- A line is part of its text. -/
theorem infix_of_mem_linesOf {s line : String} (h : line ∈ linesOf s) :
    line.toList <:+: s.toList := by
  obtain ⟨chars, hchars, rfl⟩ := List.mem_map.1 h
  obtain ⟨piece, hpiece, hline⟩ := infix_of_mem_linesOfPieces hchars
  rw [String.toList_ofList]
  exact hline.trans (infix_of_mem_splitOn hpiece)

end Stencil.Text
