import Stencil.Config.Toml.Table
import Stencil.Proofs.Keyed
import Mathlib.Data.List.Forall2

/-!
# What tables are made of

A document means a table only if none of its lines and sections defines anything twice, and then
the table can be told from them. A table of lines without dotted keys has an item for each line and
nothing else (`MadeOf`). A section of its own is put under its key (`addSection?_own`). Sections
that make elements under a key leave the rest of the table as it was (`AddsElements`).
-/

namespace Stencil.Config.Toml

open Keyed (Sorted)

variable {lines : List Assignment} {table table' root root' : Entries} {key : String}

/-! ### Lines -/

/-- **A table that lines make**: each line is an item of it, under a key of its own, and there is no
other one. -/
structure MadeOf (lines : List Assignment) (table : Entries) : Prop where
  sorted : Sorted table
  nodup_keys : (lines.map (·.key)).Nodup
  lookup_key : ∀ a ∈ lines, table.lookup a.key = some (.value a.value)
  exists_line : ∀ {key item}, table.lookup key = some item →
    ∃ a ∈ lines, a.key = key ∧ item = .value a.value

theorem insert?_plain {a : Assignment} (ha : a.path = []) (h : insert? table a = some table') :
    table.lookup a.key = none ∧ table' = table.put a.key (.value a.value) := by
  unfold insert? at h
  rw [ha] at h
  -- an assignment without a path is put into the table itself
  change (do
    guard (table.lookup a.key).isNone
    return table.put a.key (.value a.value)) = some table' at h
  cases hlookup : table.lookup a.key with
  | some item =>
    rw [hlookup] at h
    contradiction
  | none =>
    rw [hlookup] at h
    exact ⟨rfl, (Option.some.inj h).symm⟩

theorem MadeOf.put (h : MadeOf lines table) {a : Assignment} (hnew : table.lookup a.key = none) :
    MadeOf (lines ++ [a]) (table.put a.key (.value a.value)) := by
  -- a key that is new is that of no earlier line
  have hne : ∀ b ∈ lines, b.key ≠ a.key := by
    intro b hb heq
    have hlookup := h.lookup_key b hb
    rw [heq, hnew] at hlookup
    contradiction
  refine ⟨h.sorted.put _ _, ?_, ?_, ?_⟩
  · -- the keys stay different from each other
    rw [List.map_append, List.map_singleton, List.nodup_append]
    refine ⟨h.nodup_keys, List.nodup_singleton _, ?_⟩
    intro key hkey other hother
    obtain ⟨b, hb, rfl⟩ := List.mem_map.1 hkey
    rw [List.mem_singleton.1 hother]
    exact hne b hb
  · -- the earlier lines are looked up as before, and the new one is found under its key
    intro b hb
    rw [Keyed.lookup_put]
    rcases List.mem_append.1 hb with hb | hb
    · rw [if_neg (hne b hb), h.lookup_key b hb]
    · rw [List.mem_singleton.1 hb, if_pos rfl]
  · -- an item is that of the new line, or it was there before
    intro key item hitem
    rw [Keyed.lookup_put] at hitem
    split at hitem
    · next heq =>
      exact ⟨a, List.mem_append_right _ List.mem_cons_self, heq.symm, (Option.some.inj hitem).symm⟩
    · obtain ⟨b, hb, hkey⟩ := h.exists_line hitem
      exact ⟨b, List.mem_append_left _ hb, hkey⟩

theorem MadeOf.insertAll? {earlier : List Assignment} (h : MadeOf earlier table)
    (hlines : ∀ a ∈ lines, a.path = []) (hinsert : insertAll? table lines = some table') :
    MadeOf (earlier ++ lines) table' := by
  induction lines generalizing earlier table with
  | nil =>
    cases hinsert
    rwa [List.append_nil]
  | cons a lines ih =>
    obtain ⟨ha, hlines⟩ := List.forall_mem_cons.1 hlines
    -- the first line goes into the table, and the others into what this makes of it
    unfold Toml.insertAll? at hinsert
    rw [List.foldlM_cons] at hinsert
    obtain ⟨next, hnext, hrest⟩ := Option.bind_eq_some_iff.1 hinsert
    obtain ⟨hnew, rfl⟩ := insert?_plain ha hnext
    rw [List.append_cons]
    exact ih (h.put hnew) hlines hrest

/-- A table of lines without dotted keys. -/
theorem madeOf_of_insertAll? (hlines : ∀ a ∈ lines, a.path = [])
    (hinsert : insertAll? [] lines = some table) : MadeOf lines table := by
  have hempty : MadeOf [] [] :=
    ⟨List.Pairwise.nil, List.nodup_nil, List.forall_mem_nil _, fun h => by contradiction⟩
  exact hempty.insertAll? hlines hinsert

/-! ### Sections -/

/-- A section of its own is put under its key. -/
theorem addSection?_own {s : Section} (hpath : s.path = []) (hown : s.isElement = false)
    (hnew : root.lookup s.key = none) (h : addSection? root s = some root') :
    ∃ table, insertAll? [] s.lines = some table ∧
      root' = root.put s.key (.table .header table) := by
  unfold addSection? at h
  -- nothing stands under the key, so the table that is changed there is empty
  rw [hpath, hown, changeAt?, if_neg Bool.false_ne_true, hnew] at h
  obtain ⟨implied, himplied, h⟩ := Option.bind_eq_some_iff.1 h
  obtain rfl := Option.some.inj himplied
  obtain ⟨table, htable, hput⟩ := Option.bind_eq_some_iff.1 h
  exact ⟨table, htable, (Option.some.inj hput).symm⟩

/-- The elements under a key so far. -/
def elements? (table : Entries) (key : String) : Option (List Entries) :=
  match table.lookup key with
  | none => some []
  | some (.tables elements) => some elements
  | some _ => none

/-- A section that makes an element. -/
theorem addSection?_element {s : Section} {parent : String} {origin : Origin}
    (hpath : s.path = [parent]) (helement : s.isElement = true)
    (hparent : root.lookup parent = some (.table origin table))
    (h : addSection? root s = some root') :
    ∃ earlier element,
      elements? table s.key = some earlier ∧ insertAll? [] s.lines = some element ∧
      root' = root.put parent
        (.table origin (table.put s.key (.tables (earlier ++ [element])))) := by
  unfold addSection? at h
  rw [hpath, helement, changeAt?, hparent] at h
  -- the parent is there, so the section changes the table under it
  obtain ⟨-, -, h⟩ := Option.bind_eq_some_iff.1 h
  obtain ⟨changed, hchanged, hput⟩ := Option.bind_eq_some_iff.1 h
  obtain rfl := Option.some.inj hput
  rw [changeAt?, if_pos rfl] at hchanged
  -- what stood under the key were elements, or nothing did
  have hchange : (do
      let earlier ← elements? table s.key
      return table.put s.key (.tables (earlier ++ [← insertAll? [] s.lines]))) = some changed := by
    unfold elements?
    cases hlookup : table.lookup s.key with
    | none =>
      rw [hlookup] at hchanged
      exact hchanged
    | some item =>
      rw [hlookup] at hchanged
      cases item <;> exact hchanged
  obtain ⟨earlier, hearlier, hchange⟩ := Option.bind_eq_some_iff.1 hchange
  obtain ⟨element, hinsert, hchange⟩ := Option.bind_eq_some_iff.1 hchange
  obtain rfl := Option.some.inj hchange
  exact ⟨earlier, element, hearlier, hinsert, rfl⟩

/-- **What becomes of a table when sections make elements of it** under a key: nothing but that
the elements stand there behind those that stood there before. -/
structure AddsElements (key : String) (parts : List (List Assignment)) (table table' : Entries) :
    Prop where
  sorted : Sorted table → Sorted table'
  lookup_of_ne : ∀ {other}, other ≠ key → table'.lookup other = table.lookup other
  lookup_key : parts = [] ∧ table' = table ∨ ∃ earlier elements,
    elements? table key = some earlier ∧
      table'.lookup key = some (.tables (earlier ++ elements)) ∧
      List.Forall₂ (fun lines element => insertAll? [] lines = some element) parts elements

/-- One section is the step, and it stands before the others. -/
theorem AddsElements.cons {earlier : List Entries} {element : Entries}
    {parts : List (List Assignment)} (hearlier : elements? table key = some earlier)
    (hinsert : insertAll? [] lines = some element)
    (h : AddsElements key parts (table.put key (.tables (earlier ++ [element]))) table') :
    AddsElements key (lines :: parts) table table' where
  sorted := fun hsorted => h.sorted (hsorted.put _ _)
  lookup_of_ne := by
    intro other hne
    rw [h.lookup_of_ne hne, Keyed.lookup_put, if_neg hne]
  lookup_key := by
    right
    -- the element that is added is the last one so far, and the others come behind it
    rcases h.lookup_key with ⟨rfl, rfl⟩ | ⟨earlier', elements, hearlier', hlookup, hparts⟩
    · refine ⟨earlier, [element], hearlier, ?_, .cons hinsert .nil⟩
      rw [Keyed.lookup_put, if_pos rfl]
    · -- the elements that are there for the others are the earlier ones and this one
      have heq : elements? (table.put key (.tables (earlier ++ [element]))) key =
          some (earlier ++ [element]) := by
        unfold elements?
        rw [Keyed.lookup_put, if_pos rfl]
      obtain rfl := Option.some.inj (heq.symm.trans hearlier')
      refine ⟨earlier, element :: elements, hearlier, ?_, .cons hinsert hparts⟩
      rw [hlookup, List.append_assoc, List.singleton_append]

/-- **Sections that make elements of a table** change nothing outside it. -/
theorem exists_addsElements {parent : String} {origin : Origin} {parts : List (List Assignment)}
    (hparent : root.lookup parent = some (.table origin table)) (hroot : Sorted root)
    (h : (parts.map fun lines => ⟨[parent], key, true, lines⟩).foldlM addSection? root =
      some root') :
    ∃ table', AddsElements key parts table table' ∧ Sorted root' ∧
      root'.lookup parent = some (.table origin table') := by
  induction parts generalizing root table with
  | nil =>
    cases h
    exact ⟨table, ⟨id, fun _ => rfl, Or.inl ⟨rfl, rfl⟩⟩, hroot, hparent⟩
  | cons lines parts ih =>
    rw [List.map_cons, List.foldlM_cons] at h
    -- the first section adds an element to the table of the parent, where the others find it
    obtain ⟨next, hnext, hrest⟩ := Option.bind_eq_some_iff.1 h
    obtain ⟨earlier, element, hearlier, hinsert, rfl⟩ := addSection?_element rfl rfl hparent hnext
    have hput :
        (root.put parent (.table origin (table.put key (.tables (earlier ++ [element]))))).lookup
          parent = some (.table origin (table.put key (.tables (earlier ++ [element])))) := by
      rw [Keyed.lookup_put, if_pos rfl]
    obtain ⟨table', hadds, hroot', hparent'⟩ := ih hput (hroot.put _ _) hrest
    exact ⟨table', hadds.cons hearlier hinsert, hroot', hparent'⟩

/-! ### Values -/

theorem entriesValue_eq (table : Entries) :
    entriesValue table = table.map fun entry => (entry.1, entry.2.toValue) := by
  induction table with
  | nil => rfl
  | cons entry table ih => rw [entriesValue, ih, List.map_cons]

/-- The values of a table are those of its items. -/
theorem mem_entriesValue_iff (hsorted : Sorted table) {v : Value} :
    (key, v) ∈ entriesValue table ↔ ∃ item, table.lookup key = some item ∧ v = item.toValue := by
  rw [entriesValue_eq, List.mem_map]
  constructor
  · rintro ⟨⟨name, item⟩, hmem, heq⟩
    obtain ⟨rfl, rfl⟩ := Prod.mk.inj heq
    exact ⟨item, hsorted.mem_iff_lookup.1 hmem, rfl⟩
  · rintro ⟨item, hlookup, rfl⟩
    exact ⟨(key, item), hsorted.mem_iff_lookup.2 hlookup, rfl⟩

theorem elementsValue_eq (elements : List Entries) :
    elementsValue elements = elements.map fun element => .table (entriesValue element) := by
  induction elements with
  | nil => rfl
  | cons element elements ih => rw [elementsValue, ih, List.map_cons]

end Stencil.Config.Toml
