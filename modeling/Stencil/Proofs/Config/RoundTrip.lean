import Mathlib
import Stencil.Manifest.Document

/-!
# Reading what was written

A record is written as a table with an entry for each of its fields, and reading the table gives the
record back: `read_fieldValue`, `read_methodValue` and `read_generatorValue`, with `readList_map`
for the lists of them.

A template is the exception. What a table does not mention is read as in the default template, and
a template without a documentation text is written without an entry for it. So **a template that
was written without documentation is read with the default one** (`read_templateValue`), and a
manifest survives the round trip exactly if its template has a documentation text
(`manifest_roundTrip_iff`).
-/

namespace Stencil

/-- The template with the default documentation, if it has none of its own. -/
def ClassTemplate.described (t : ClassTemplate) : ClassTemplate :=
  { t with doc := some (t.doc.getD ClassTemplate.defaultDoc) }

/-- A template is documented exactly if it is what becomes of it. -/
theorem ClassTemplate.described_eq_self_iff (t : ClassTemplate) :
    t.described = t ↔ t.doc ≠ none := by
  constructor
  · intro h hnone
    -- the default fills in where there is no documentation
    have hdoc : some (t.doc.getD ClassTemplate.defaultDoc) = t.doc := congrArg ClassTemplate.doc h
    rw [hnone] at hdoc
    contradiction
  · intro h
    obtain ⟨doc, hdoc⟩ := Option.ne_none_iff_exists'.1 h
    unfold described
    rw [hdoc, Option.getD_some, ← hdoc]

namespace Config

/-! ### Words and lists -/

theorem readModifier_keyword (format : Format) (m : Modifier) :
    readModifier format (.string m.keyword) = .ok m := by
  cases m <;> rfl

theorem readStrategy_name (format : Format) (s : Strategy) :
    readStrategy format (.string s.name) = .ok s := by
  cases s <;> rfl

/-- A list is read back if its items are. -/
theorem readList_map {α : Type} {item : Value → Except DecodeError α} {value : α → Value}
    (h : ∀ a, item (value a) = .ok a) (l : List α) :
    (Value.array (l.map value)).readList item = .ok l := by
  change (l.map value).mapM item = .ok l
  induction l with
  | nil => rfl
  | cons a l ih =>
    rw [List.map_cons, List.mapM_cons, h a, ih]
    rfl

theorem readList_modifiersValue (format : Format) (ms : List Modifier) :
    (modifiersValue ms).readList (readModifier format) = .ok ms := by
  unfold modifiersValue strings
  rw [List.map_map]
  exact readList_map (readModifier_keyword format) ms

theorem readList_strings (items : List String) :
    (strings items).readList Value.readString = .ok items := by
  have hstring : ∀ s, (Value.string s).readString = .ok s := fun _ => rfl
  exact readList_map hstring items

/-! ### Records -/

section

variable {ρ : Type} {schema : Schema ρ} {record : ρ}

/-- A field that is read from a value changes the record that it is read into. -/
theorem read_field {α : Type} {x : Except DecodeError α} {a : α} (h : x = .ok a) (set : α → ρ) :
    (do return set (← x)) = (.ok (set a) : Except DecodeError ρ) := by
  rw [h]
  rfl

/-- An entry is read by the field with its key. -/
theorem foldlM_entry {key : String} {v : Value} {field : FieldSchema ρ} {record' : ρ}
    (hfield : schema.fields.find? (·.key == key) = some field)
    (hread : field.read v record = .ok record') (rest : List (String × Value)) :
    ((key, v) :: rest).foldlM schema.readEntry record =
      rest.foldlM schema.readEntry record' := by
  -- the entry is read by the field under its key, and its part is filled in
  have hentry : schema.readEntry record (key, v) = .ok record' := by
    unfold Schema.readEntry
    rw [hfield]
    exact hread
  rw [List.foldlM_cons, hentry]
  rfl

/-- A record is read from entries that make it, if no field is missing. -/
theorem read_table_of_foldlM {format : Format} {entries : List (String × Value)}
    (hentries : entries.foldlM schema.readEntry schema.blank = .ok record)
    (hpresent : schema.missing? (entries.map (·.1)) = none) :
    schema.read format (.table entries) = .ok record := by
  change schema.readEntries entries = .ok record
  unfold Schema.readEntries
  rw [hentries, hpresent]
  rfl

end

theorem fieldValue_eq (f : FieldTemplate) :
    fieldValue f = .table [("modifiers", modifiersValue f.modifiers), ("name", .string f.name),
      ("type", .string f.type)] := by
  simp only [fieldValue, Value.tableOf, List.foldl_cons, List.foldl_nil, Keyed.put,
    String.reduceLT, String.reduceEq, if_true, if_false]

theorem read_fieldValue (format : Format) (f : FieldTemplate) :
    (fieldSchema format).read format (fieldValue f) = .ok f := by
  rw [fieldValue_eq]
  refine read_table_of_foldlM ?_ (by rfl)
  rw [foldlM_entry (by rfl) (read_field (readList_modifiersValue format f.modifiers) _),
    foldlM_entry (by rfl) (by rfl), foldlM_entry (by rfl) (by rfl)]
  rfl

theorem methodValue_eq (m : MethodTemplate) :
    methodValue m = .table [("body", strings m.body), ("modifiers", modifiersValue m.modifiers),
      ("name", .string m.name), ("returns", .string m.returns)] := by
  simp only [methodValue, Value.tableOf, List.foldl_cons, List.foldl_nil, Keyed.put,
    String.reduceLT, String.reduceEq, if_true, if_false]

theorem read_methodValue (format : Format) (m : MethodTemplate) :
    (methodSchema format).read format (methodValue m) = .ok m := by
  rw [methodValue_eq]
  refine read_table_of_foldlM ?_ (by rfl)
  rw [foldlM_entry (by rfl) (read_field (readList_strings m.body) _),
    foldlM_entry (by rfl) (read_field (readList_modifiersValue format m.modifiers) _),
    foldlM_entry (by rfl) (by rfl), foldlM_entry (by rfl) (by rfl)]
  rfl

theorem generatorValue_eq (g : Generator) :
    generatorValue g =
      .table [("marker", .string g.marker), ("strategy", .string g.strategy.name)] := by
  simp only [generatorValue, Value.tableOf, List.foldl_cons, List.foldl_nil, Keyed.put,
    String.reduceLT, String.reduceEq, if_false]

theorem read_generatorValue (format : Format) (g : Generator) :
    (generatorSchema format).read format (generatorValue g) = .ok g := by
  rw [generatorValue_eq]
  refine read_table_of_foldlM ?_ (by rfl)
  rw [foldlM_entry (by rfl) (by rfl),
    foldlM_entry (by rfl) (read_field (readStrategy_name format g.strategy) _)]
  rfl

/-! ### Templates -/

theorem templateValue_eq (t : ClassTemplate) :
    templateValue t = .table (("class_name", .string t.className) ::
      ((t.doc.map fun doc => ("doc", Value.string doc)).toList ++
        [("fields", .array (t.fields.map fieldValue)),
          ("methods", .array (t.methods.map methodValue)),
          ("modifiers", modifiersValue t.modifiers)])) := by
  unfold templateValue
  -- the entries are put in the order of their keys, with documentation or without
  cases t.doc <;>
    simp only [Value.tableOf, List.foldl_cons, List.foldl_nil, Keyed.put, String.reduceLT,
      String.reduceEq, Option.map_none, Option.map_some, Option.toList, List.cons_append,
      List.nil_append, reduceIte]

/-- **A template without documentation is read with the default one**; every other template is read
as it was written. -/
theorem read_templateValue (format : Format) (t : ClassTemplate) :
    (templateSchema format).read format (templateValue t) = .ok t.described := by
  -- what is behind the documentation is read alike, whatever the record has got by then
  have hbehind : ∀ name doc, ([("fields", Value.array (t.fields.map fieldValue)),
      ("methods", .array (t.methods.map methodValue)),
      ("modifiers", modifiersValue t.modifiers)].foldlM (templateSchema format).readEntry
        { ClassTemplate.default with className := name, doc }) =
      .ok ⟨name, doc, t.modifiers, t.fields, t.methods⟩ := by
    intro name doc
    rw [foldlM_entry (by rfl) (read_field (readList_map (read_fieldValue format) t.fields) _),
      foldlM_entry (by rfl) (read_field (readList_map (read_methodValue format) t.methods) _),
      foldlM_entry (by rfl) (read_field (readList_modifiersValue format t.modifiers) _)]
    rfl
  rw [templateValue_eq]
  unfold ClassTemplate.described
  cases t.doc with
  -- no documentation is read, so the default is kept
  | none =>
    refine read_table_of_foldlM ?_ (by rfl)
    rw [foldlM_entry (by rfl) (by rfl)]
    exact hbehind t.className (some ClassTemplate.defaultDoc)
  | some doc =>
    refine read_table_of_foldlM ?_ (by rfl)
    rw [foldlM_entry (by rfl) (by rfl)]
    change (("doc", Value.string doc) :: _).foldlM _ _ = _
    rw [foldlM_entry (by rfl) (by rfl)]
    exact hbehind t.className (some doc)

/-! ### Manifests -/

theorem manifestValue_eq (m : Manifest) :
    manifestValue m = .table
      [("generator", generatorValue m.generator), ("template", templateValue m.template)] := by
  simp only [manifestValue, Value.tableOf, List.foldl_cons, List.foldl_nil, Keyed.put,
    String.reduceLT, String.reduceEq, if_false]

/-- A manifest is read with the documentation of its template, or the default one. -/
theorem read_manifestValue (format : Format) (m : Manifest) :
    (manifestSchema format).read format (manifestValue m) =
      .ok { m with template := m.template.described } := by
  rw [manifestValue_eq]
  refine read_table_of_foldlM ?_ (by rfl)
  rw [foldlM_entry (by rfl) (read_field (read_generatorValue format m.generator) _),
    foldlM_entry (by rfl) (read_field (read_templateValue format m.template) _)]
  rfl

/-- **A manifest is accepted with the documentation of its template, or the default one**, from any
text that says what is written for it: documentation is no matter of validation. -/
theorem parse_of_read {m : Manifest} {text : String}
    (hread : Toml.read? text = some (manifestValue m)) (hvalid : m.problem? = none)
    (file : String) :
    Manifest.parse file text = .ok { m with template := m.template.described } := by
  -- what is validated differs from `m` in documentation only
  have hvalidate : ({ m with template := m.template.described } : Manifest).validate text =
      .ok () := by
    have hproblem : ({ m with template := m.template.described } : Manifest).problem? = none :=
      hvalid
    unfold Manifest.validate
    rw [hproblem]
  unfold Manifest.parse readDocument
  rw [hread]
  dsimp only
  rw [read_manifestValue]
  change (({ m with template := m.template.described } : Manifest).validate text >>= fun _ =>
    pure { m with template := m.template.described }) = _
  rw [hvalidate]
  rfl

theorem described_eq_self_iff (m : Manifest) :
    ({ m with template := m.template.described } : Manifest) = m ↔ m.template.doc ≠ none := by
  rw [← ClassTemplate.described_eq_self_iff]
  exact ⟨fun h => congrArg Manifest.template h, fun h => by rw [h]⟩

/-- **A manifest survives being written and read exactly if its template is documented**, in both
formats, and if it is valid, as a document too. -/
theorem manifest_roundTrip_iff (m : Manifest) :
    (∀ format, (manifestSchema format).read format (manifestValue m) = .ok m ↔
      m.template.doc ≠ none) ∧
    ∀ file text, Toml.read? text = some (manifestValue m) → m.problem? = none →
      (Manifest.parse file text = .ok m ↔ m.template.doc ≠ none) := by
  refine ⟨fun format => ?_, fun file text hread hvalid => ?_⟩
  · rw [read_manifestValue, Except.ok.injEq, described_eq_self_iff]
  · rw [parse_of_read hread hvalid, Except.ok.injEq, described_eq_self_iff]

/-- A manifest whose template has no documentation is read as another one. -/
theorem manifest_roundTrip_undocumented :
    let m : Manifest := { generator := { marker := "m" }, template := { className := "X" } }
    ∀ format, (manifestSchema format).read format (manifestValue m) ≠ .ok m ∧
      (manifestSchema format).read format (manifestValue m) =
        .ok { m with template := m.template.withDoc ClassTemplate.defaultDoc } := by
  intro m format
  rw [read_manifestValue]
  refine ⟨fun h => ?_, rfl⟩
  -- the manifest that is read has documentation, and this one has none
  have hdoc : some ClassTemplate.defaultDoc = none :=
    congrArg (fun m : Manifest => m.template.doc) (Except.ok.inj h)
  contradiction

/-- A manifest with nothing in it but what has to be there, and documentation. -/
def documented : Manifest :=
  ⟨⟨"m", .structured⟩, { className := "X", doc := some "d" }⟩

/-- What is written for it, as a text. -/
def documentedText : String :=
  "[generator]\nmarker = \"m\"\nstrategy = \"structured\"\n\n" ++
    "[template]\nclass_name = \"X\"\ndoc = \"d\"\nfields = []\nmethods = []\nmodifiers = []\n"

set_option maxRecDepth 4000 in
theorem read?_documentedText :
    Toml.read? documentedText = some (.table [
      ("generator", .table [("marker", .string "m"), ("strategy", .string "structured")]),
      ("template", .table [("class_name", .string "X"), ("doc", .string "d"),
        ("fields", .array []), ("methods", .array []), ("modifiers", .array [])])]) := by
  unfold documentedText
  cbv

theorem manifest_roundTrip_documented :
    documented.problem? = none ∧ Manifest.parse "etch.toml" documentedText = .ok documented := by
  have hread : Toml.read? documentedText = some (manifestValue documented) := by
    rw [read?_documentedText, manifestValue_eq, generatorValue_eq, templateValue_eq]
    rfl
  have hvalid : documented.problem? = none := by decide +kernel
  have hparse := (manifest_roundTrip_iff documented).2 "etch.toml" documentedText hread hvalid
  exact ⟨hvalid, hparse.2 (by decide)⟩

end Config

end Stencil
