import Stencil.Proofs.Text.Pieces
import Stencil.Proofs.Text.Spans

/-!
# Where a quoted text occurs

A text in double quotes occurs in another wherever two quotes stand around it, whichever of them
open and close anything there. So in a list of quoted items it is found in the stead of each item
that it equals, and between two items if it is the separator (`infix_items_iff`). No occurrence goes
beyond the end of a line (`infix_lines_iff`).

Two places where a value stands in quotes are the first two that a search finds exactly if it stands
in quotes neither before the first one nor between them (`exists_quotedSpans_eq_iff`).
-/

namespace Stencil.Text

variable {name : List Char}

/-! ### Texts that do not go beyond a character -/

theorem prefix_of_prefix_append_cons {needle u v : List Char} {c : Char} (hc : c ∉ needle)
    (h : needle <+: u ++ c :: v) : needle <+: u := by
  rcases List.prefix_or_prefix_of_prefix h (List.prefix_append u (c :: v)) with hprefix | ⟨w, rfl⟩
  · exact hprefix
  · -- what is beyond `u` begins with the character
    rw [List.prefix_append_right_inj] at h
    cases w with
    | nil => exact ⟨[], by rw [List.append_nil, List.append_nil]⟩
    | cons d w =>
      obtain ⟨rfl, -⟩ := List.cons_prefix_cons.1 h
      exact absurd (List.mem_append_right u List.mem_cons_self) hc

/-- A text without a character occurs on one side of it. -/
theorem infix_append_cons_iff {needle u v : List Char} {c : Char} (hc : c ∉ needle) :
    needle <:+: u ++ c :: v ↔ needle <:+: u ∨ needle <:+: v := by
  constructor
  · intro h
    -- a needle that begins before the delimiter cannot reach across it
    induction u with
    | nil =>
      rcases List.infix_cons_iff.1 h with hprefix | hv
      · exact Or.inl (prefix_of_prefix_append_cons hc (u := []) hprefix).isInfix
      · exact Or.inr hv
    | cons d u ih =>
      rcases List.infix_cons_iff.1 h with hprefix | hrest
      · exact Or.inl (prefix_of_prefix_append_cons hc (u := d :: u) hprefix).isInfix
      · exact (ih hrest).imp_left fun hu => List.infix_cons_iff.2 (Or.inr hu)
  · rintro (hu | hv)
    · exact hu.trans (List.prefix_append u _).isInfix
    · exact hv.trans ((List.suffix_cons c v).trans (List.suffix_append u _)).isInfix

/-- **No occurrence goes beyond the end of a line.** -/
theorem infix_lines_iff {needle : List Char} (hneedle : '\n' ∉ needle) (lines : List (List Char))
    (last : List Char) : needle <:+: lines.flatMap (· ++ ['\n']) ++ last ↔
      (∃ line ∈ lines, needle <:+: line) ∨ needle <:+: last := by
  induction lines with
  | nil => simp
  | cons line lines ih =>
    -- each line end is a delimiter that the needle lacks
    rw [List.flatMap_cons, List.append_assoc, List.append_assoc, List.singleton_append,
      infix_append_cons_iff hneedle, ih, ← or_assoc]
    refine or_congr_left ?_
    simp only [List.mem_cons, exists_eq_or_imp]

/-! ### Quoted texts -/

/-- What stands before the first quote does not count. -/
theorem inQuotes_infix_append_iff {u v : List Char} (hu : '\x22' ∉ u) :
    inQuotes name <:+: u ++ v ↔ inQuotes name <:+: v := by
  induction u with
  | nil => rfl
  | cons c u ih =>
    rw [List.mem_cons, not_or] at hu
    -- it does not begin with another character than a quote
    have hnot : ¬ inQuotes name <+: c :: (u ++ v) := by
      intro h
      exact hu.1 (List.cons_prefix_cons.1 h).1
    rw [List.cons_append, List.infix_cons_iff, or_iff_right hnot, ih hu.2]

/-- One quote is not enough. -/
theorem not_inQuotes_infix_cons {v : List Char} (hv : '\x22' ∉ v) :
    ¬ inQuotes name <:+: '\x22' :: v := by
  intro h
  rcases List.infix_cons_iff.1 h with hprefix | hbehind
  · obtain ⟨-, hrest⟩ := List.cons_prefix_cons.1 hprefix
    exact hv (hrest.subset (List.mem_append_right _ (List.mem_singleton_self _)))
  · exact hv (hbehind.subset List.mem_cons_self)

/-- Behind a quote the text goes up to the next one, or occurs from there on. -/
theorem inQuotes_infix_cons_iff (hname : '\x22' ∉ name) {u v : List Char} (hu : '\x22' ∉ u) :
    inQuotes name <:+: '\x22' :: (u ++ '\x22' :: v) ↔
      u = name ∨ inQuotes name <:+: '\x22' :: v := by
  rw [List.infix_cons_iff, inQuotes_infix_append_iff hu]
  refine or_congr_left ?_
  constructor
  · -- what stands between the two quotes is determined, since neither text has one
    intro h
    obtain ⟨-, rest, hrest⟩ := List.cons_prefix_cons.1 h
    have hsplit : u ++ '\x22' :: v = name ++ '\x22' :: rest := by
      rw [← hrest]
      exact List.append_assoc name _ rest
    exact (append_cons_inj hu hname hsplit).1
  · rintro rfl
    exact ⟨v, List.append_assoc _ _ _⟩

theorem inQuotes_append (item v : List Char) :
    inQuotes item ++ v = '\x22' :: (item ++ '\x22' :: v) := by
  show '\x22' :: (item ++ ['\x22'] ++ v) = _
  rw [List.append_assoc, List.singleton_append]

theorem map_intersperse {α β : Type} (f : α → β) (sep : α) (l : List α) :
    (l.intersperse sep).map f = (l.map f).intersperse (f sep) := by
  induction l with
  | nil => rfl
  | cons a l ih =>
    -- a separator is only put before a further item
    cases l with
    | nil => rfl
    | cons b l =>
      simp only [List.intersperse_cons_cons, List.map_cons] at ih ⊢
      rw [ih]

/-- **Where a quoted text occurs among quoted items**: at the items that equal it, and between two
items if it is the separator. -/
theorem infix_items_iff (hname : '\x22' ∉ name) {separator stop : List Char}
    (hseparator : '\x22' ∉ separator) (hstop : '\x22' ∉ stop) {items : List (List Char)}
    (hitems : ∀ item ∈ items, '\x22' ∉ item) :
    inQuotes name <:+: separator.intercalate (items.map inQuotes) ++ stop ↔
      name ∈ items.intersperse separator := by
  induction items with
  | nil =>
    refine iff_of_false (fun h => ?_) List.not_mem_nil
    exact hstop (h.subset List.mem_cons_self)
  | cons item items ih =>
    obtain ⟨hitem, hitems⟩ := List.forall_mem_cons.1 hitems
    cases items with
    | nil =>
      -- the last item: behind its quotes there is nothing that could close others
      rw [List.map_singleton, List.intercalate_singleton, inQuotes_append,
        inQuotes_infix_cons_iff hname hitem, or_iff_left (not_inQuotes_infix_cons hstop),
        List.intersperse_singleton, List.mem_singleton, eq_comm]
    | cons next items =>
      -- the quote that closes the item opens what is between it and the next one
      obtain ⟨rest, hrest⟩ : ∃ rest, separator.intercalate ((next :: items).map inQuotes) ++ stop =
          '\x22' :: rest := by
        cases items with
        | nil => exact ⟨_, by rw [List.map_singleton, List.intercalate_singleton, inQuotes_append]⟩
        | cons other items =>
          rw [List.map_cons, List.map_cons, List.intercalate_cons_cons, List.append_assoc,
            List.append_assoc, inQuotes_append]
          exact ⟨_, rfl⟩
      have hnext := ih hitems
      rw [hrest] at hnext
      rw [List.map_cons, List.map_cons, List.intercalate_cons_cons, ← List.map_cons,
        List.append_assoc, List.append_assoc, hrest, inQuotes_append,
        inQuotes_infix_cons_iff hname hitem, inQuotes_infix_cons_iff hname hseparator, hnext,
        List.intersperse_cons_cons, List.mem_cons, List.mem_cons, eq_comm, @eq_comm _ separator]

/-! ### The first two occurrences -/

/-- Up to its first delimiter a text is the beginning of every other one that goes on alike. -/
theorem prefix_of_append_cons_eq {d : Char} {s t u v : List Char} (hs : d ∉ s)
    (h : s ++ d :: u = t ++ d :: v) : s ++ [d] <+: t ++ [d] := by
  by_cases ht : d ∈ t
  · obtain ⟨first, rest, rfl, hfirst⟩ := List.eq_append_cons_of_mem ht
    rw [List.append_assoc, List.cons_append] at h
    obtain ⟨rfl, -⟩ := append_cons_inj hs hfirst h
    exact ⟨rest ++ [d], by simp⟩
  · obtain ⟨rfl, -⟩ := append_cons_inj hs ht h
    exact List.prefix_rfl

/-- **An occurrence is the leftmost one if there is none up to its opening quote.** One that went
beyond that would end inside the name. -/
theorem isLeftmost_inQuotes_iff (hname : '\x22' ∉ name) (before after : List Char) :
    IsLeftmost (inQuotes name) (before ++ inQuotes name ++ after) before after ↔
      ¬ inQuotes name <:+: before ++ ['\x22'] := by
  constructor
  · -- one up to the opening quote would begin before that
    rintro ⟨-, hleast⟩ ⟨u, v, huv⟩
    have hsplit : before ++ inQuotes name ++ after =
        u ++ inQuotes name ++ (v ++ (name ++ '\x22' :: after)) := by
      rw [← List.append_assoc _ v, huv, List.append_assoc, List.append_assoc, inQuotes_append]
      rfl
    have hle := hleast hsplit
    have hlength := congrArg List.length huv
    simp only [List.length_append, inQuotes, List.length_cons] at hlength
    omega
  · intro hnot
    refine ⟨rfl, fun {u v} huv => Nat.le_of_not_lt fun hlt => ?_⟩
    rw [List.append_assoc, List.append_assoc] at huv
    have hbefore : u <+: before :=
      List.prefix_of_prefix_length_le ⟨_, huv.symm⟩ (List.prefix_append _ _) (Nat.le_of_lt hlt)
    obtain ⟨w, rfl⟩ := hbefore
    -- so what stands between the two beginnings is a part of the text before
    rw [List.append_assoc, List.append_cancel_left_eq, inQuotes_append, inQuotes_append] at huv
    cases w with
    | nil => simp at hlt
    | cons c w =>
      -- the name has no quote, so one that begins earlier ends with the opening quote or before
      obtain ⟨rfl, hrest⟩ := List.cons.inj huv.symm
      obtain ⟨rest, hrest⟩ := prefix_of_append_cons_eq hname hrest
      refine hnot ⟨u, rest, ?_⟩
      rw [List.append_assoc, List.append_assoc, List.cons_append, ← hrest]
      rfl

/-- The number of bytes before the leftmost occurrence tells which one it is. -/
theorem IsLeftmost.of_byteLength_eq {needle text u rest before after : List Char}
    (h : IsLeftmost needle text u rest) (htext : text = before ++ needle ++ after)
    (hbytes : byteLength u = byteLength before) : IsLeftmost needle text before after := by
  have hsplit := h.split
  -- the text before is determined by its length in bytes
  rw [htext, List.append_assoc, List.append_assoc] at hsplit
  obtain ⟨w, rfl⟩ := prefix_of_byteLength_le hsplit (Nat.le_of_eq hbytes.symm)
  rw [byteLength_append] at hbytes
  obtain rfl : w = [] := eq_nil_of_byteLength_eq_zero (by omega)
  rw [List.append_nil] at h hsplit
  rw [List.append_cancel_left_eq, List.append_cancel_left_eq] at hsplit
  rwa [hsplit]

variable {text value : String} {before between after : List Char}

/-- The first two spans are those of the leftmost occurrence and of the next one. -/
theorem IsLeftmost.exists_quotedSpans_eq {rest : List Char}
    (h : IsLeftmost (inQuotes value.toList) text.toList before rest)
    (hnext : IsLeftmost (inQuotes value.toList) rest between after) :
    ∃ spans, quotedSpans text value = spanBehind before value.toList ::
      spanBehind (before ++ inQuotes value.toList ++ between) value.toList :: spans := by
  rw [h.quotedSpans_eq, hnext.occurrencesFrom_eq (inQuotes_ne_nil _), List.map_cons,
    ← byteLength_append]
  exact ⟨_, rfl⟩

/-- **Which places are told of a name that stands in quotes at two places**: these two if it stands
in quotes neither before the first nor between them, and else others. -/
theorem exists_quotedSpans_eq_iff (hname : '\x22' ∉ value.toList)
    (htext : text.toList = before ++ inQuotes value.toList ++
      (between ++ inQuotes value.toList ++ after)) :
    (∃ spans, quotedSpans text value = spanBehind before value.toList ::
      spanBehind (before ++ inQuotes value.toList ++ between) value.toList :: spans) ↔
      ¬ inQuotes value.toList <:+: before ++ ['\x22'] ∧
        ¬ inQuotes value.toList <:+: between ++ ['\x22'] := by
  rw [← isLeftmost_inQuotes_iff hname before (between ++ inQuotes value.toList ++ after),
    ← isLeftmost_inQuotes_iff hname between after, ← htext]
  constructor
  · rintro ⟨spans, hspans⟩
    obtain ⟨u, rest, hleftmost⟩ := exists_isLeftmost ⟨before, _, htext.symm⟩
    rw [hleftmost.quotedSpans_eq] at hspans
    have hfirst := hleftmost.of_byteLength_eq htext
      (Nat.succ.inj (congrArg Span.offset (List.cons.inj hspans).1))
    refine ⟨hfirst, ?_⟩
    -- the first one is told rightly, so the second one is what comes next
    rw [← hleftmost.quotedSpans_eq] at hspans
    have hinfix : inQuotes value.toList <:+: between ++ inQuotes value.toList ++ after :=
      ⟨between, after, rfl⟩
    obtain ⟨w, rest, hnext⟩ := exists_isLeftmost hinfix
    obtain ⟨others, hothers⟩ := hfirst.exists_quotedSpans_eq hnext
    rw [hothers] at hspans
    have hspan := (List.cons.inj (List.cons.inj hspans).2).1
    have hbytes := congrArg Span.offset hspan
    refine hnext.of_byteLength_eq rfl ?_
    unfold spanBehind at hbytes
    rw [byteLength_append, byteLength_append _ between] at hbytes
    dsimp only at hbytes
    omega
  · rintro ⟨hfirst, hnext⟩
    exact hfirst.exists_quotedSpans_eq hnext

end Stencil.Text
