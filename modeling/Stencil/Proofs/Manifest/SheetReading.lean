import Stencil.Proofs.Config.Parts
import Stencil.Proofs.Config.Tables
import Stencil.Proofs.Manifest.Sheet
import Stencil.Proofs.Manifest.Validation

/-!
# What is read from a manifest that is laid out

A laid out manifest means a table with its template in it, in which the members stand behind what
the lines of the template say (`Sheet.exists_of_addSections`). Each member is read from the lines
of its own section, and one of them has to give its name (`Sheet.ReadsNames`).

So the names of the members of a kind are those that their lines give, one for each section
(`Sheet.linesNames_of_readDocument`). The exception is a manifest without sections for them, whose
members are those of the default template, or none.
-/

namespace Stencil

open Config Config.Toml
open Keyed (Sorted)

namespace Sheet

variable {s : Sheet}

/-! ### Tables -/

/-- The lines of members as assignments. -/
def assignments (parts : List (List PlainLine)) : List (List Assignment) :=
  parts.map (·.map PlainLine.assignment)

theorem path_of_mem_assignments {lines : List PlainLine} :
    ∀ a ∈ lines.map PlainLine.assignment, a.path = [] := by
  intro a ha
  obtain ⟨line, -, rfl⟩ := List.mem_map.1 ha
  rfl

/-- The sections that describe members of a kind make elements of the template. -/
theorem map_meaning_members (kind : MemberKind) (parts : List (List PlainLine)) :
    (parts.map (⟨memberHeading kind, ·⟩)).map PlainSection.meaning =
      (assignments parts).map fun lines => ⟨["template"], kind.key.text, true, lines⟩ := by
  unfold assignments
  rw [List.map_map, List.map_map]
  rfl

/-- The sections of a laid out manifest make a table with the template in it, whose members stand
behind what its own lines say. -/
theorem exists_of_addSections {root : Entries}
    (h : (s.sections.map PlainSection.meaning).foldlM addSection? [] = some root) :
    ∃ template fields table, Sorted root ∧
      root.lookup "template" = some (.table .header table) ∧
      MadeOf (s.template.map PlainLine.assignment) template ∧
      AddsElements "fields" (assignments s.fields) template fields ∧
      AddsElements "methods" (assignments s.methods) fields table := by
  -- the two sections come first, and then the members of either kind
  change (PlainSection.meaning ⟨generatorHeading, s.generator⟩ ::
    PlainSection.meaning ⟨templateHeading, s.template⟩ :: List.map PlainSection.meaning _).foldlM
      addSection? [] = some root at h
  rw [List.foldlM_cons, List.map_append, map_meaning_members, map_meaning_members] at h
  obtain ⟨root₁, hgenerator, h⟩ := Option.bind_eq_some_iff.1 h
  rw [List.foldlM_cons] at h
  obtain ⟨root₂, htemplate, h⟩ := Option.bind_eq_some_iff.1 h
  rw [List.foldlM_append] at h
  obtain ⟨root₃, hfields, hmethods⟩ := Option.bind_eq_some_iff.1 h
  -- no header is there twice, so each of the two sections has a table of its own
  obtain ⟨generator, -, rfl⟩ := addSection?_own rfl rfl rfl hgenerator
  obtain ⟨template, hinsert, rfl⟩ := addSection?_own rfl rfl (by rfl) htemplate
  have hempty : Sorted ([] : Entries) := List.Pairwise.nil
  have hsorted := (hempty.put "generator" (.table .header generator)).put "template"
    (.table .header template)
  have hlookup := Keyed.lookup_put "template" "template" (.table .header template)
    (Keyed.put "generator" (Item.table .header generator) [])
  rw [if_pos rfl] at hlookup
  -- the fields find the table of the template, and the methods find what the fields have made of it
  obtain ⟨fields, hadds, hsorted, hlookup⟩ := exists_addsElements hlookup hsorted hfields
  obtain ⟨table, hadds', hsorted, hlookup⟩ := exists_addsElements hlookup hsorted hmethods
  exact ⟨template, fields, table, hsorted, hlookup,
    madeOf_of_insertAll? path_of_mem_assignments hinsert, hadds, hadds'⟩

/-- **What a laid out manifest means** is the table that its sections make. -/
theorem exists_of_read? {value : Value} (h : Toml.read? s.text = some value) :
    ∃ root, value = .table (entriesValue root) ∧
      (s.sections.map PlainSection.meaning).foldlM addSection? [] = some root := by
  have hread : Document.read? s.text = some ⟨[], s.sections.map PlainSection.meaning⟩ :=
    Document.read?_allWritten String.toList_ofList
  unfold Toml.read? at h
  rw [hread, Option.bind_some] at h
  unfold Document.value? at h
  -- nothing stands before the first header
  obtain ⟨empty, hempty, h⟩ := Option.bind_eq_some_iff.1 h
  obtain rfl : [] = empty := Option.some.inj hempty
  obtain ⟨root, hroot, h⟩ := Option.bind_eq_some_iff.1 h
  exact ⟨root, (Option.some.inj h).symm, hroot⟩

/-! ### Members -/

/-- A record that is read with a name from a line of its own. -/
structure ReadsNames {ρ : Type} (schema : Schema ρ) (nameOf : ρ → String) : Prop where
  part : schema.HasPart "name" nameOf Value.readString
  required : ∃ field ∈ schema.fields, field.key = "name" ∧ field.required = true

theorem readsNames_field (format : Format) : ReadsNames (fieldSchema format) (·.name) :=
  ⟨hasPart_fieldName format, _, List.mem_cons_self, rfl, rfl⟩

theorem readsNames_method (format : Format) : ReadsNames (methodSchema format) (·.name) :=
  ⟨hasPart_methodName format, _, List.mem_cons_self, rfl, rfl⟩

section

variable {ρ : Type} {schema : Schema ρ} {nameOf : ρ → String} {records : List ρ}

/-- **A member has the name that one of its lines gives**, and no other line gives one. -/
theorem ReadsNames.filterMap_lineName? (h : ReadsNames schema nameOf) {lines : List PlainLine}
    {element : Entries} {record : ρ}
    (hinsert : insertAll? [] (lines.map PlainLine.assignment) = some element)
    (hread : schema.readEntries (entriesValue element) = .ok record) :
    lines.filterMap lineName? = [nameOf record] := by
  have hmade := madeOf_of_insertAll? path_of_mem_assignments hinsert
  obtain ⟨v, hmem, hstring⟩ := h.part.of_required hread h.required
  obtain ⟨item, hitem, rfl⟩ := (mem_entriesValue_iff hmade.sorted).1 hmem
  obtain ⟨a, ha, hkey, rfl⟩ := hmade.exists_line hitem
  obtain ⟨line, hline, rfl⟩ := List.mem_map.1 ha
  -- the line under the key gives the name, since the value that is read there is a text
  have hname : lineName? line = some (nameOf record) := by
    obtain ⟨key, value⟩ := line
    refine (if_pos hkey).trans ?_
    cases value with
    | text v => exact congrArg some (Except.ok.inj hstring)
    | list vs => contradiction
  -- the keys of the other lines are other ones
  obtain ⟨before, after, rfl⟩ := List.append_of_mem hline
  have hkeys := hmade.nodup_keys
  rw [List.map_map, List.map_append, List.map_cons, List.nodup_middle, List.nodup_cons,
    ← List.map_append] at hkeys
  have hother : ∀ other ∈ before ++ after, lineName? other = none := by
    intro other hmem
    refine if_neg fun heq => hkeys.1 (List.mem_map.2 ⟨other, hmem, ?_⟩)
    exact heq.trans hkey.symm
  have hnone : (before ++ after).filterMap lineName? = [] := List.filterMap_eq_nil_iff.2 hother
  rw [List.filterMap_append, List.append_eq_nil_iff] at hnone
  rw [List.filterMap_append, List.filterMap_cons_some hname, hnone.1, hnone.2, List.nil_append]

/-- Elements are read as members with the names that their lines give. -/
theorem ReadsNames.linesNames_of_elements (h : ReadsNames schema nameOf)
    {parts : List (List PlainLine)} {elements : List Entries}
    (hparts : List.Forall₂ (fun lines element => insertAll? [] lines = some element)
      (assignments parts) elements)
    (hread : (Item.tables elements).toValue.readList (schema.read .toml) = .ok records) :
    linesNames parts = records.map nameOf := by
  change (elementsValue elements).mapM (schema.read .toml) = .ok records at hread
  rw [elementsValue_eq] at hread
  have hrecords := forall₂_of_mapM_ok hread
  unfold assignments at hparts
  rw [List.forall₂_map_left_iff] at hparts hrecords
  clear hread
  -- sections and records go side by side
  induction hparts generalizing records with
  | nil =>
    cases hrecords
    rfl
  | cons hinsert _ ih =>
    cases hrecords with
    | cons hread hrecords =>
      unfold linesNames at *
      rw [List.flatMap_cons, List.map_cons, h.filterMap_lineName? hinsert hread, ih hrecords]
      rfl

/-- A plain value is read as no members at all. -/
theorem eq_nil_of_plain (v : PlainValue)
    (hread : v.value.readList (schema.read .toml) = .ok records) : records = [] := by
  cases v with
  | text v => contradiction
  | list vs =>
    cases vs with
    | nil =>
      cases hread
      rfl
    | cons v vs =>
      -- a text is no record
      obtain ⟨record, rest, hrecord, -, -⟩ := mapM_cons_ok hread
      contradiction

/-- **What is read as the members under a key**: none, or those that the sections have made. -/
theorem ReadsNames.linesNames_of_addsElements (h : ReadsNames schema nameOf) {key : String}
    {parts : List (List PlainLine)} {before table : Entries}
    (hadds : AddsElements key (assignments parts) before table)
    (hbefore : ∀ item, before.lookup key = some item → ∃ v : PlainValue, item = .value v.value)
    {item : Item} (hitem : table.lookup key = some item)
    (hread : item.toValue.readList (schema.read .toml) = .ok records) :
    records = [] ∨ linesNames parts = records.map nameOf := by
  rcases hadds.lookup_key with ⟨-, rfl⟩ | ⟨earlier, elements, hearlier, hlookup, hparts⟩
  · obtain ⟨v, rfl⟩ := hbefore item hitem
    exact Or.inl (eq_nil_of_plain v hread)
  · -- behind a plain value no section could make elements, so there was nothing
    have hnone : before.lookup key = none := by
      refine Option.eq_none_iff_forall_ne_some.2 fun item hsome => ?_
      obtain ⟨v, rfl⟩ := hbefore item hsome
      unfold elements? at hearlier
      rw [hsome] at hearlier
      contradiction
    unfold elements? at hearlier
    rw [hnone] at hearlier
    obtain rfl := Option.some.inj hearlier
    obtain rfl := Option.some.inj (hitem.symm.trans hlookup)
    exact Or.inr (h.linesNames_of_elements hparts hread)

end

end Sheet

/-! ### Manifests -/

/-- A document that is no record of the right sort is malformed. -/
theorem exists_of_readDocument_eq_error {ρ : Type} {schema : Schema ρ} {file text : String}
    {e : ConfigError} (h : readDocument schema file text = .error e) :
    ∃ detail, e = .malformed file detail := by
  unfold readDocument at h
  split at h
  · -- the text is not of the format
    exact ⟨none, (Except.error.inj h).symm⟩
  · -- the text is, but the record is not in it
    next value _ =>
    cases hvalue : schema.read .toml value with
    | error detail =>
      rw [hvalue] at h
      exact ⟨some detail, (Except.error.inj h).symm⟩
    | ok record =>
      rw [hvalue] at h
      contradiction

/-- A manifest that is rejected was read before. -/
theorem Manifest.exists_of_parse_eq_rejected {file text : String} {problem : Problem}
    {labels : List Label}
    (h : Manifest.parse file text = .error (.rejected problem labels)) :
    ∃ m, readDocument (manifestSchema .toml) file text = .ok m ∧ m.RejectedFor problem ∧
      labels = problem.labels text := by
  unfold Manifest.parse at h
  cases hread : readDocument (manifestSchema .toml) file text with
  -- what cannot be read is malformed, and so it is not rejected
  | error e =>
    rw [hread] at h
    obtain rfl : e = .rejected problem labels := Except.error.inj h
    obtain ⟨detail, hdetail⟩ := exists_of_readDocument_eq_error hread
    contradiction
  -- what was read is rejected by the validation, which puts the labels there
  | ok m =>
    rw [hread] at h
    have hvalidate : m.validate text = .error (.rejected problem labels) := by
      change (m.validate text >>= fun _ => pure m) = _ at h
      cases hresult : m.validate text with
      | error e =>
        rw [hresult] at h
        rw [Except.error.inj h]
      | ok _ =>
        rw [hresult] at h
        contradiction
    obtain ⟨problem, hproblem, heq⟩ := validate_eq_error_iff.1 hvalidate
    obtain ⟨rfl, rfl⟩ := ConfigError.rejected.inj heq
    exact ⟨m, rfl, problem?_eq_some_iff.1 hproblem, rfl⟩

/-- The names of the members of a kind. -/
def Manifest.memberNames (m : Manifest) : MemberKind → List String
  | .field => m.fieldNames
  | .method => m.methodNames

/-- The template of a laid out manifest is read from a table with the members in it. -/
theorem Sheet.exists_of_readDocument {s : Sheet} {file : String} {m : Manifest}
    (h : readDocument (manifestSchema .toml) file s.text = .ok m) :
    ∃ template fields table, MadeOf (s.template.map PlainLine.assignment) template ∧
      AddsElements "fields" (assignments s.fields) template fields ∧
      AddsElements "methods" (assignments s.methods) fields table ∧
      (templateSchema .toml).readEntries (entriesValue table) = .ok m.template := by
  unfold readDocument at h
  split at h
  · contradiction
  · next value hvalue =>
    obtain ⟨root, rfl, hroot⟩ := exists_of_read? hvalue
    obtain ⟨template, fields, table, hsorted, hlookup, hmade, hfields, hmethods⟩ :=
      exists_of_addSections hroot
    refine ⟨template, fields, table, hmade, hfields, hmethods, ?_⟩
    -- the schema of the manifest reads the entries of the table, and adds only the path to a fault
    have hread : (manifestSchema .toml).readEntries (entriesValue root) = .ok m := by
      change Except.mapError _ ((manifestSchema .toml).readEntries (entriesValue root)) = .ok m at h
      cases hentries : (manifestSchema .toml).readEntries (entriesValue root) with
      | error e =>
        rw [hentries] at h
        contradiction
      | ok m' =>
        rw [hentries] at h
        rw [Except.ok.inj h]
    -- the section of the template is there, so its part of the manifest is read from it
    rcases (hasPart_template .toml).of_readEntries hread with ⟨habsent, -⟩ | ⟨v, hmem, hv⟩
    · exact absurd ((mem_entriesValue_iff hsorted).2 ⟨_, hlookup, rfl⟩) (habsent _)
    · obtain ⟨item, hitem, rfl⟩ := (mem_entriesValue_iff hsorted).1 hmem
      obtain rfl := Option.some.inj (hlookup.symm.trans hitem)
      exact hv

/-- **The names of a manifest are those that its lines give**, if any of them repeats. -/
theorem Sheet.linesNames_of_readDocument {s : Sheet} {file : String} {m : Manifest}
    (h : readDocument (manifestSchema .toml) file s.text = .ok m) (kind : MemberKind) :
    (m.memberNames kind).Nodup ∨
      linesNames (s.members kind) = m.memberNames kind := by
  obtain ⟨template, fields, table, hmade, hfields, hmethods, hread⟩ := exists_of_readDocument h
  have hsorted : Sorted table := hmethods.sorted (hfields.sorted hmade.sorted)
  -- before the members the template has what its own lines say
  have hplain : ∀ {key item}, template.lookup key = some item →
      ∃ v : PlainValue, item = .value v.value := by
    intro key item hitem
    obtain ⟨a, ha, -, rfl⟩ := hmade.exists_line hitem
    obtain ⟨line, -, rfl⟩ := List.mem_map.1 ha
    exact ⟨line.value, rfl⟩
  have hempty : ∀ {names : List String}, names = [] → names.Nodup := by
    rintro names rfl
    exact List.nodup_nil
  cases kind with
  | field =>
    -- the sections of the fields come first, so they find only what the lines of the template say
    rcases (hasPart_fields .toml).of_readEntries hread with ⟨-, hdefault⟩ | ⟨v, hmem, hv⟩
    · left
      show (m.template.fields.map _).Nodup
      rw [hdefault]
      decide
    · obtain ⟨item, hitem, rfl⟩ := (mem_entriesValue_iff hsorted).1 hmem
      rw [hmethods.lookup_of_ne (by decide)] at hitem
      have hnames := (readsNames_field .toml).linesNames_of_addsElements hfields
        (fun _ => hplain) hitem hv
      exact hnames.imp_left fun hnil => hempty (List.map_eq_nil_iff.2 hnil)
  | method =>
    rcases (hasPart_methods .toml).of_readEntries hread with ⟨-, hdefault⟩ | ⟨v, hmem, hv⟩
    · left
      show (m.template.methods.map _).Nodup
      rw [hdefault]
      decide
    · obtain ⟨item, hitem, rfl⟩ := (mem_entriesValue_iff hsorted).1 hmem
      -- no section of a field changes what is under the key of the methods
      have hbefore : ∀ item, fields.lookup "methods" = some item →
          ∃ v : PlainValue, item = .value v.value := by
        intro item hitem
        rw [hfields.lookup_of_ne (by decide)] at hitem
        exact hplain hitem
      have hnames := (readsNames_method .toml).linesNames_of_addsElements hmethods
        hbefore hitem hv
      exact hnames.imp_left fun hnil => hempty (List.map_eq_nil_iff.2 hnil)

end Stencil
