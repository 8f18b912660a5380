import Stencil.Proofs.Config.RoundTrip

/-!
# Records that survive being written and read

The records of feeds and the members of manifests are read back as they were written, in both
formats (`Recovered`). Each has an entry for every field but the optional element of a declaration,
and that one is absent exactly if there is no element, which is what a declaration without an entry
for it is read with. So nothing is filled in from elsewhere, unlike with the documentation of a
template.

`members_recovered` puts the records together.
-/

namespace Stencil.Config

/-- **Records that are recovered from what is written for them.** -/
structure Recovered {ρ : Type} (schema : Format → Schema ρ) (value : ρ → Value) : Prop where
  /-- A record is read back as it was. -/
  read_value : ∀ format record, (schema format).read format (value record) = .ok record
  /-- Writing what was read and reading that again, in the same format or in the other one, changes
  nothing, whatever was read: words in another form, further keys, or a mistake. -/
  reread : ∀ format format' v,
    ((schema format).read format v >>= fun record =>
        (schema format').read format' (value record)) =
      (schema format).read format v
  /-- Different records are written differently. -/
  injective : Function.Injective value

section

variable {ρ : Type} {schema : Format → Schema ρ} {value : ρ → Value}

/-- That a record is read back is all there is to its recovery. -/
theorem Recovered.of_read_value
    (h : ∀ format record, (schema format).read format (value record) = .ok record) :
    Recovered schema value where
  read_value := h
  reread := by
    intro format format' v
    -- what was refused is refused again, and what was read is read as the same record
    cases (schema format).read format v with
    | error e => rfl
    | ok record => exact h format' record
  injective := by
    -- a value is read as one record only
    intro record record' heq
    have hread := h .json record
    rw [heq, h .json record'] at hread
    exact (Except.ok.inj hread).symm

end

/-! ### Feeds -/

theorem declarationValue_eq (d : Declaration) :
    declarationValue d = .table
      ((d.element.map fun element => ("element", Value.string element)).toList ++
        [("marker", .string d.marker), ("namespace", .string d.package)]) := by
  unfold declarationValue
  cases d.element <;>
    simp only [Value.tableOf, List.foldl_cons, List.foldl_nil, Keyed.put, String.reduceLT,
      String.reduceEq, Option.map_none, Option.map_some, Option.toList, List.cons_append,
      List.nil_append, reduceIte]

/-- A declaration is read back, with its element if it has one and without if it has none. -/
theorem read_declarationValue (format : Format) (d : Declaration) :
    declarationSchema.read format (declarationValue d) = .ok d := by
  obtain ⟨marker, package, element⟩ := d
  rw [declarationValue_eq]
  -- the element comes first, and what is behind it is read alike
  cases element with
  | none =>
    refine read_table_of_foldlM ?_ (by rfl)
    rw [Option.map_none, Option.toList_none, List.nil_append, foldlM_entry (by rfl) (by rfl),
      foldlM_entry (by rfl) (by rfl)]
    rfl
  | some element =>
    refine read_table_of_foldlM ?_ (by rfl)
    rw [Option.map_some, Option.toList_some, List.singleton_append,
      foldlM_entry (by rfl) (by rfl), foldlM_entry (by rfl) (by rfl),
      foldlM_entry (by rfl) (by rfl)]
    rfl

theorem roundValue_eq (r : Round) :
    roundValue r = .table [("declarations", .array (r.declarations.map declarationValue))] := rfl

theorem read_roundValue (format : Format) (r : Round) :
    (roundSchema format).read format (roundValue r) = .ok r := by
  rw [roundValue_eq]
  refine read_table_of_foldlM ?_ (by rfl)
  rw [foldlM_entry (by rfl)
    (read_field (readList_map (read_declarationValue format) r.declarations) _)]
  rfl

/-! ### All of them -/

/-- **Declarations, rounds, generators and members are recovered** from what is written for them. -/
theorem members_recovered :
    Recovered (fun _ => declarationSchema) declarationValue ∧
      Recovered roundSchema roundValue ∧
      Recovered generatorSchema generatorValue ∧
      Recovered fieldSchema fieldValue ∧
      Recovered methodSchema methodValue :=
  ⟨.of_read_value read_declarationValue, .of_read_value read_roundValue,
    .of_read_value read_generatorValue, .of_read_value read_fieldValue,
    .of_read_value read_methodValue⟩

/-- A null, an absent package and a key that nobody asks for are read, though never written. -/
example : declarationSchema.read .json
    (.table [("element", .null), ("marker", .string "m"), ("origin", .integer 1)]) =
      .ok ⟨"m", "", none⟩ := by
  rfl

end Stencil.Config
