import Stencil.Config.Codec
import Stencil.Proofs.Success

/-!
# Parts of records

A part of a record that only one field is read into (`Schema.HasPart`) is what was read there, if
the table has an entry for the field, and else what it was in the blank record
(`Schema.HasPart.of_readEntries`). The parts of manifests that hold members have their own fields,
and so have the names of members.
-/

namespace Stencil.Config

namespace Schema

variable {ρ β : Type} {schema : Schema ρ} {key : String} {get : ρ → β}
  {read : Value → Except DecodeError β}

/-- **A part of a record that belongs to one field.** The field under a key is read into it, and no
other one changes it. -/
structure HasPart (schema : Schema ρ) (key : String) (get : ρ → β)
    (read : Value → Except DecodeError β) : Prop where
  readEntry_key : ∀ {v record record'}, schema.readEntry record (key, v) = .ok record' →
    read v = .ok (get record')
  readEntry_of_ne : ∀ {entry record record'}, entry.1 ≠ key →
    schema.readEntry record entry = .ok record' → get record' = get record

theorem HasPart.of_foldlM (h : schema.HasPart key get read) {entries : List (String × Value)}
    {record record' : ρ} (hread : entries.foldlM schema.readEntry record = .ok record') :
    (∀ v, (key, v) ∉ entries) ∧ get record' = get record ∨
      ∃ v, (key, v) ∈ entries ∧ read v = .ok (get record') := by
  induction entries generalizing record with
  | nil =>
    cases hread
    exact Or.inl ⟨fun _ => List.not_mem_nil, rfl⟩
  | cons entry entries ih =>
    -- whether a later entry is under the key decides which entry the part is from
    rw [List.foldlM_cons] at hread
    obtain ⟨next, hnext, hrest⟩ := bind_ok hread
    rcases ih hrest with ⟨hnone, hget⟩ | ⟨v, hv, hvalue⟩
    · -- no later entry is under the key, so the first one counts if it is
      obtain ⟨name, v⟩ := entry
      by_cases hname : name = key
      · subst hname
        refine Or.inr ⟨v, List.mem_cons_self, ?_⟩
        rw [hget]
        exact h.readEntry_key hnext
      · -- an entry under another key leaves the part as it is
        refine Or.inl ⟨fun v' hmem => ?_, ?_⟩
        · rcases List.mem_cons.1 hmem with heq | hmem
          · exact hname (Prod.mk.inj heq).1.symm
          · exact hnone v' hmem
        · rw [hget, h.readEntry_of_ne hname hnext]
    · exact Or.inr ⟨v, List.mem_cons_of_mem _ hv, hvalue⟩

theorem readEntries_ok {entries : List (String × Value)} {record : ρ}
    (h : schema.readEntries entries = .ok record) :
    entries.foldlM schema.readEntry schema.blank = .ok record ∧
      schema.missing? (entries.map (·.1)) = none := by
  unfold readEntries at h
  obtain ⟨record', hfold, h⟩ := bind_ok h
  -- what is missing is looked for when all entries are read
  split at h
  · contradiction
  · next hmissing =>
    cases h
    exact ⟨hfold, hmissing⟩

/-- **A part of a record is what was read there**, or what it was in the blank one. -/
theorem HasPart.of_readEntries (h : schema.HasPart key get read) {entries : List (String × Value)}
    {record : ρ} (hread : schema.readEntries entries = .ok record) :
    (∀ v, (key, v) ∉ entries) ∧ get record = get schema.blank ∨
      ∃ v, (key, v) ∈ entries ∧ read v = .ok (get record) :=
  h.of_foldlM (readEntries_ok hread).1

/-- A part that has to be there was read. -/
theorem HasPart.of_required (h : schema.HasPart key get read) {entries : List (String × Value)}
    {record : ρ} (hread : schema.readEntries entries = .ok record)
    (hrequired : ∃ field ∈ schema.fields, field.key = key ∧ field.required = true) :
    ∃ v, (key, v) ∈ entries ∧ read v = .ok (get record) := by
  refine (h.of_readEntries hread).resolve_left fun hblank => ?_
  -- the part is not as in the blank record, since its field is required and not missing
  obtain ⟨field, hmem, rfl, hfield⟩ := hrequired
  have hmissing := (readEntries_ok hread).2
  unfold missing? at hmissing
  rw [Option.map_eq_none_iff, List.find?_eq_none] at hmissing
  have hpresent := hmissing field hmem
  rw [hfield, Bool.true_and, Bool.not_eq_true', Bool.not_eq_false,
    List.contains_iff_mem] at hpresent
  obtain ⟨⟨name, v⟩, hentry, rfl⟩ := List.mem_map.1 hpresent
  exact hblank.1 v hentry

end Schema

/-! ### Fields -/

section

variable {ρ α β : Type} {get : ρ → β} {read : Value → Except DecodeError β}

/-- A field that leaves a part of every record as it was. -/
def FieldSchema.Leaves (field : FieldSchema ρ) (get : ρ → β) : Prop :=
  ∀ v record record', field.read v record = .ok record' → get record' = get record

/-- A field that is read into a part of a record. -/
def FieldSchema.Fills (field : FieldSchema ρ) (get : ρ → β)
    (read : Value → Except DecodeError β) : Prop :=
  ∀ v record record', field.read v record = .ok record' → read v = .ok (get record')

theorem fills_of_set {key : String} {required : Bool} {set : ρ → β → ρ}
    (hset : ∀ record b, get (set record b) = b) :
    FieldSchema.Fills ⟨key, required, fun v record => do return set record (← read v)⟩
      get read := by
  intro v record record' h
  obtain ⟨b, hb, h⟩ := bind_ok h
  rw [← Except.ok.inj h, hset, hb]

theorem leaves_of_set {key : String} {required : Bool} {read : Value → Except DecodeError α}
    {set : ρ → α → ρ} (hset : ∀ record a, get (set record a) = get record) :
    FieldSchema.Leaves ⟨key, required, fun v record => do return set record (← read v)⟩ get := by
  intro v record record' h
  obtain ⟨a, -, h⟩ := bind_ok h
  rw [← Except.ok.inj h, hset]

/-- A schema that refuses other keys has a part if one of its fields is read into it, and each of
the others leaves it as it was. -/
theorem Schema.HasPart.of_fields {schema : Schema ρ} {before after : List (FieldSchema ρ)}
    {field : FieldSchema ρ} (hclosed : schema.closed = true)
    (hfields : schema.fields = before ++ field :: after)
    (hbefore : ∀ other ∈ before, other.key ≠ field.key) (hfills : field.Fills get read)
    (hleaves : ∀ other ∈ before ++ after, other.Leaves get) :
    schema.HasPart field.key get read where
  readEntry_key := by
    -- no field before this one has its key, so it is the one that is found
    intro v record record' h
    have hfind : schema.fields.find? (·.key == field.key) = some field := by
      rw [hfields, List.find?_append, List.find?_eq_none.2 (by simpa using hbefore), Option.none_or,
        List.find?_cons, beq_self_eq_true]
    unfold readEntry at h
    rw [hfind] at h
    exact hfills v record record' h
  -- the entry is read by the field under its key, which is another one
  readEntry_of_ne := by
    intro entry record record' hentry h
    unfold readEntry at h
    split at h
    · next other hfind =>
      have hkey : other.key = entry.1 := by simpa using List.find?_some hfind
      have hmem := List.mem_of_find?_eq_some hfind
      rw [hfields] at hmem
      have hother : other ∈ before ++ after := by
        rcases List.mem_append.1 hmem with hmem | hmem
        · exact List.mem_append_left _ hmem
        · rcases List.mem_cons.1 hmem with rfl | hmem
          · exact absurd hkey.symm hentry
          · exact List.mem_append_right _ hmem
      exact hleaves other hother _ _ _ h
    · -- a closed record refuses what is under no key of its own
      rw [if_pos hclosed] at h
      contradiction

end

/-! ### Members of manifests -/

section

variable (format : Format)

theorem hasPart_fieldName :
    (fieldSchema format).HasPart "name" (·.name) Value.readString := by
  refine .of_fields rfl (List.nil_append _).symm (List.forall_mem_nil _) (fills_of_set ?_) ?_
  · exact fun _ _ => rfl
  · simp only [List.nil_append, List.forall_mem_cons]
    exact ⟨leaves_of_set fun _ _ => rfl, leaves_of_set fun _ _ => rfl, List.forall_mem_nil _⟩

theorem hasPart_methodName :
    (methodSchema format).HasPart "name" (·.name) Value.readString := by
  refine .of_fields rfl (List.nil_append _).symm (List.forall_mem_nil _) (fills_of_set ?_) ?_
  · exact fun _ _ => rfl
  · simp only [List.nil_append, List.forall_mem_cons]
    exact ⟨leaves_of_set fun _ _ => rfl, leaves_of_set fun _ _ => rfl,
      leaves_of_set fun _ _ => rfl, List.forall_mem_nil _⟩

theorem hasPart_fields :
    (templateSchema format).HasPart "fields" (·.fields)
      (·.readList ((fieldSchema format).read format)) := by
  refine .of_fields rfl (show _ = [_, _, _] ++ _ :: [_] from rfl) ?_ (fills_of_set ?_) ?_
  · simp
  · exact fun _ _ => rfl
  · simp only [List.cons_append, List.nil_append, List.forall_mem_cons]
    exact ⟨leaves_of_set fun _ _ => rfl, leaves_of_set fun _ _ => rfl,
      leaves_of_set fun _ _ => rfl, leaves_of_set fun _ _ => rfl, List.forall_mem_nil _⟩

theorem hasPart_methods :
    (templateSchema format).HasPart "methods" (·.methods)
      (·.readList ((methodSchema format).read format)) := by
  refine .of_fields rfl (show _ = [_, _, _, _] ++ _ :: [] from rfl) ?_ (fills_of_set ?_) ?_
  · simp
  · exact fun _ _ => rfl
  · simp only [List.cons_append, List.nil_append, List.forall_mem_cons]
    exact ⟨leaves_of_set fun _ _ => rfl, leaves_of_set fun _ _ => rfl,
      leaves_of_set fun _ _ => rfl, leaves_of_set fun _ _ => rfl, List.forall_mem_nil _⟩

theorem hasPart_template :
    (manifestSchema format).HasPart "template" (·.template)
      ((templateSchema format).read format) := by
  refine .of_fields rfl (show _ = [_] ++ _ :: [] from rfl) ?_ (fills_of_set ?_) ?_
  · simp
  · exact fun _ _ => rfl
  · simp only [List.singleton_append, List.forall_mem_cons]
    exact ⟨leaves_of_set fun _ _ => rfl, List.forall_mem_nil _⟩

end

end Stencil.Config
