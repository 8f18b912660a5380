import Mathlib.Tactic.SplitIfs
import Stencil.Manifest.Document
import Stencil.Proofs.Text.Words

/-!
# What validation accepts

A manifest is valid if its marker is a word, its class has a name, and no two members of one kind
share theirs (`Manifest.IsValid`). `Manifest.RejectedFor` says for which problem another manifest is
rejected: each of its cases holds only where those before it do not, and a repeated name is the
first of its list that equals an earlier one (`RepeatsFirst`).

`Manifest.validate` does just that (`validate_exact`). The text of the document has no part in
either notion. It is only searched for the places of the labels, so two documents for one manifest
are accepted together, and else rejected for the same problem.
-/

namespace Stencil

open Text (Spaces Solid)

/-! ### Repeated names -/

/-- **A name is the first of its list that equals an earlier one**: those before it differ from each
other, and it is one of them. -/
def RepeatsFirst (names : List String) (name : String) : Prop :=
  ∃ before after, names = before ++ name :: after ∧ before.Nodup ∧ name ∈ before

theorem firstRepeat?_eq_none_iff {seen names : List String} :
    firstRepeat? seen names = none ↔ names.Nodup ∧ ∀ name ∈ names, name ∉ seen := by
  -- each name is seen by those behind it
  induction names generalizing seen with
  | nil => simp [firstRepeat?]
  | cons name rest ih =>
    rw [firstRepeat?, List.nodup_cons, List.forall_mem_cons]
    split
    · next hseen => exact iff_of_false (by simp) fun h => h.2.1 hseen
    · next hnew =>
      rw [ih]
      constructor
      · rintro ⟨hnodup, hrest⟩
        -- no later name is one that was seen, and the first one is seen by then
        have hname : name ∉ rest := fun hmem => hrest name hmem List.mem_cons_self
        exact ⟨⟨hname, hnodup⟩, hnew, fun n hn hseen => hrest n hn (List.mem_cons_of_mem _ hseen)⟩
      · rintro ⟨⟨hname, hnodup⟩, -, hrest⟩
        refine ⟨hnodup, fun n hn hseen => ?_⟩
        rcases List.mem_cons.1 hseen with rfl | hseen
        · exact hname hn
        · exact hrest n hn hseen

/-- What is found is the first name that equals an earlier one, or one of those that stand before
all. -/
theorem firstRepeat?_eq_some_iff {seen names : List String} {name : String} :
    firstRepeat? seen names = some name ↔
      ∃ before after, names = before ++ name :: after ∧ before.Nodup ∧
        (∀ n ∈ before, n ∉ seen) ∧ (name ∈ seen ∨ name ∈ before) := by
  induction names generalizing seen with
  | nil => simp [firstRepeat?]
  | cons first rest ih =>
    rw [firstRepeat?]
    split
    · next hseen =>
      constructor
      · -- a name that was seen is the first that repeats, with none before it
        intro h
        obtain rfl := Option.some.inj h
        exact ⟨[], rest, rfl, List.nodup_nil, by simp, Or.inl hseen⟩
      · rintro ⟨before, after, hsplit, -, hnew, -⟩
        cases before with
        | nil => exact congrArg some (List.cons.inj hsplit).1
        | cons b before =>
          obtain ⟨rfl, -⟩ := List.cons.inj hsplit
          exact absurd hseen (hnew _ List.mem_cons_self)
    · next hnew =>
      -- behind the first name it counts as one of those before
      rw [ih]
      constructor
      · rintro ⟨before, after, rfl, hnodup, hbefore, hname⟩
        have hfirst : first ∉ before := fun hmem => hbefore first hmem List.mem_cons_self
        refine ⟨first :: before, after, rfl, List.nodup_cons.2 ⟨hfirst, hnodup⟩, ?_, ?_⟩
        · intro n hn
          rcases List.mem_cons.1 hn with rfl | hn
          · exact hnew
          · exact fun hseen => hbefore n hn (List.mem_cons_of_mem _ hseen)
        · rwa [List.mem_cons, or_assoc, or_left_comm, ← List.mem_cons] at hname
      · -- the first name is not the one that repeats, so it is one of those before
        rintro ⟨before, after, hsplit, hnodup, hbefore, hname⟩
        cases before with
        | nil =>
          obtain ⟨rfl, -⟩ := List.cons.inj hsplit
          rcases hname with hname | hname
          · exact absurd hname hnew
          · exact absurd hname List.not_mem_nil
        | cons b before =>
          obtain ⟨rfl, rfl⟩ := List.cons.inj hsplit
          obtain ⟨hfirst, hnodup⟩ := List.nodup_cons.1 hnodup
          refine ⟨before, after, rfl, hnodup, fun n hn hseen => ?_, ?_⟩
          · rcases List.mem_cons.1 hseen with rfl | hseen
            · exact hfirst hn
            · exact hbefore n (List.mem_cons_of_mem _ hn) hseen
          · rwa [List.mem_cons, or_left_comm, ← or_assoc, ← List.mem_cons] at hname

theorem firstRepeat?_nil_eq_none_iff {names : List String} :
    firstRepeat? [] names = none ↔ names.Nodup := by
  rw [firstRepeat?_eq_none_iff, and_iff_left fun _ _ => List.not_mem_nil]

theorem firstRepeat?_nil_eq_some_iff {names : List String} {name : String} :
    firstRepeat? [] names = some name ↔ RepeatsFirst names name := by
  rw [firstRepeat?_eq_some_iff]
  unfold RepeatsFirst
  simp only [List.not_mem_nil, not_false_eq_true, implies_true, true_and, false_or]

/-! ### Valid manifests -/

theorem isBlankText_iff {s : String} : isBlankText s = true ↔ Spaces s.toList :=
  List.all_eq_true

theorem any_isSpace_eq_false_iff {s : List Char} : s.any Text.isSpace = false ↔ Solid s := by
  rw [List.any_eq_false]
  exact forall₂_congr fun _ _ => Bool.eq_false_iff.symm

namespace Manifest

/-- The names of the fields. -/
def fieldNames (m : Manifest) : List String :=
  m.template.fields.map (·.name)

/-- The names of the methods. -/
def methodNames (m : Manifest) : List String :=
  m.template.methods.map (·.name)

/-- **A manifest that makes sense.** -/
structure IsValid (m : Manifest) : Prop where
  marker_ne_empty : m.generator.marker ≠ ""
  marker_solid : Solid m.generator.marker.toList
  className_not_spaces : ¬ Spaces m.template.className.toList
  nodup_fields : m.fieldNames.Nodup
  nodup_methods : m.methodNames.Nodup

/-- **The problem that a manifest is rejected for.** A marker of white space counts as an empty one,
and as such before it counts as one with white space in it. -/
inductive RejectedFor (m : Manifest) : Problem → Prop
  | emptyMarker (h : Spaces m.generator.marker.toList) : RejectedFor m .emptyMarker
  | spacedMarker (hmarker : ¬ Spaces m.generator.marker.toList)
      (h : ¬ Solid m.generator.marker.toList) : RejectedFor m (.spacedMarker m.generator.marker)
  | emptyClassName (hmarker : ¬ Spaces m.generator.marker.toList)
      (hsolid : Solid m.generator.marker.toList) (h : Spaces m.template.className.toList) :
      RejectedFor m .emptyClassName
  | field {name : String} (hmarker : ¬ Spaces m.generator.marker.toList)
      (hsolid : Solid m.generator.marker.toList) (hclass : ¬ Spaces m.template.className.toList)
      (h : RepeatsFirst m.fieldNames name) : RejectedFor m (.duplicate .field name)
  | method {name : String} (hmarker : ¬ Spaces m.generator.marker.toList)
      (hsolid : Solid m.generator.marker.toList) (hclass : ¬ Spaces m.template.className.toList)
      (hfields : m.fieldNames.Nodup) (h : RepeatsFirst m.methodNames name) :
      RejectedFor m (.duplicate .method name)

/-- A word is no white space, and what is neither white space nor has any is a word. -/
theorem marker_iff {s : String} :
    ¬ Spaces s.toList ∧ Solid s.toList ↔ s ≠ "" ∧ Solid s.toList := by
  refine and_congr_left fun hsolid => not_congr ?_
  rw [← String.toList_eq_nil_iff]
  constructor
  · -- a text of white space without white space is empty
    intro hspaces
    refine List.eq_nil_iff_forall_not_mem.2 fun c hc => ?_
    exact Bool.false_ne_true ((hsolid c hc).symm.trans (hspaces c hc))
  · intro hempty
    rw [hempty]
    exact Spaces.nil

/-- The first problem is looked for in the order in which problems are told. -/
theorem problem?_eq (m : Manifest) :
    m.problem? =
      if Spaces m.generator.marker.toList then some .emptyMarker
      else if Solid m.generator.marker.toList then
        if Spaces m.template.className.toList then some .emptyClassName
        else ((firstRepeat? [] m.fieldNames).map (.duplicate .field)).or
          ((firstRepeat? [] m.methodNames).map (.duplicate .method))
      else some (.spacedMarker m.generator.marker) := by
  unfold problem?
  simp only [isBlankText_iff, ← any_isSpace_eq_false_iff, Option.orElse_eq_orElse,
    Option.orElse_eq_or, fieldNames, methodNames]
  cases m.generator.marker.toList.any Text.isSpace <;> rfl

theorem problem?_eq_none_iff {m : Manifest} : m.problem? = none ↔ m.IsValid := by
  rw [problem?_eq]
  constructor
  · intro h
    -- each check that was passed excludes one of the conditions
    split_ifs at h with hmarker hsolid hclass
    obtain ⟨hfields, hmethods⟩ := Option.or_eq_none_iff.1 h
    rw [Option.map_eq_none_iff, firstRepeat?_nil_eq_none_iff] at hfields hmethods
    exact ⟨(marker_iff.1 ⟨hmarker, hsolid⟩).1, hsolid, hclass, hfields, hmethods⟩
  · intro h
    have hmarker := (marker_iff.2 ⟨h.marker_ne_empty, h.marker_solid⟩).1
    rw [if_neg hmarker, if_pos h.marker_solid, if_neg h.className_not_spaces,
      firstRepeat?_nil_eq_none_iff.2 h.nodup_fields, firstRepeat?_nil_eq_none_iff.2 h.nodup_methods]
    rfl

theorem problem?_eq_some_iff {m : Manifest} {problem : Problem} :
    m.problem? = some problem ↔ m.RejectedFor problem := by
  rw [problem?_eq]
  constructor
  · intro h
    -- the conditions are tried in this order, and what is found is the first
    split_ifs at h with hmarker hsolid hclass
    · obtain rfl := Option.some.inj h
      exact .emptyMarker hmarker
    · obtain rfl := Option.some.inj h
      exact .emptyClassName hmarker hsolid hclass
    · rcases Option.or_eq_some_iff.1 h with hfield | ⟨hnone, hmethod⟩
      · obtain ⟨name, hname, rfl⟩ := Option.map_eq_some_iff.1 hfield
        exact .field hmarker hsolid hclass (firstRepeat?_nil_eq_some_iff.1 hname)
      · rw [Option.map_eq_none_iff, firstRepeat?_nil_eq_none_iff] at hnone
        obtain ⟨name, hname, rfl⟩ := Option.map_eq_some_iff.1 hmethod
        exact .method hmarker hsolid hclass hnone (firstRepeat?_nil_eq_some_iff.1 hname)
    · obtain rfl := Option.some.inj h
      exact .spacedMarker hmarker hsolid
  · intro h
    -- the other conditions that a problem is told with exclude what would be found before it
    cases h with
    | emptyMarker h => rw [if_pos h]
    | spacedMarker hmarker h => rw [if_neg hmarker, if_neg h]
    | emptyClassName hmarker hsolid h => rw [if_neg hmarker, if_pos hsolid, if_pos h]
    | field hmarker hsolid hclass h =>
      rw [if_neg hmarker, if_pos hsolid, if_neg hclass, firstRepeat?_nil_eq_some_iff.2 h]
      rfl
    | method hmarker hsolid hclass hfields h =>
      rw [if_neg hmarker, if_pos hsolid, if_neg hclass, firstRepeat?_nil_eq_none_iff.2 hfields,
        firstRepeat?_nil_eq_some_iff.2 h]
      rfl

/-! ### Validation -/

theorem validate_eq_ok_iff {m : Manifest} {text : String} :
    m.validate text = .ok () ↔ m.problem? = none := by
  unfold validate
  cases m.problem? with
  | none => exact iff_of_true rfl rfl
  | some problem => exact iff_of_false (fun h => nomatch h) fun h => nomatch h

theorem validate_eq_error_iff {m : Manifest} {text : String} {e : ConfigError} :
    m.validate text = .error e ↔
      ∃ problem, m.problem? = some problem ∧ e = .rejected problem (problem.labels text) := by
  unfold validate
  cases m.problem? with
  | none => exact iff_of_false (fun h => nomatch h) fun ⟨_, h, _⟩ => nomatch h
  | some problem =>
    constructor
    · -- the labels come from the text, but whether there are any does not
      intro h
      exact ⟨problem, rfl, (Except.error.inj h).symm⟩
    · rintro ⟨problem, hproblem, rfl⟩
      rw [Option.some.inj hproblem]

end Manifest

/-- The error without its places in the text. -/
def ConfigError.withoutLabels : ConfigError → ConfigError
  | .rejected problem _ => .rejected problem []
  | e => e

/-- **Validation is exact.** Just the valid manifests are accepted. Every other one is rejected for
one problem, the first that it has, and what the document says shows in nothing but the labels. -/
theorem Manifest.validate_exact (m : Manifest) (text : String) :
    (m.validate text = .ok () ↔ m.IsValid) ∧
    (∀ e, m.validate text = .error e ↔
      ∃ problem, m.RejectedFor problem ∧ e = .rejected problem (problem.labels text)) ∧
    ∀ other, (m.validate other).mapError ConfigError.withoutLabels =
      (m.validate text).mapError ConfigError.withoutLabels := by
  refine ⟨?_, fun e => ?_, fun other => ?_⟩
  · rw [validate_eq_ok_iff, problem?_eq_none_iff]
  · simp only [validate_eq_error_iff, problem?_eq_some_iff]
  · -- the text is only asked for labels
    unfold validate
    cases m.problem? with
    | none => rfl
    | some problem => rfl

end Stencil
