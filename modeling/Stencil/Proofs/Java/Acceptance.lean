import Stencil.Proofs.Java.Grammar
import Stencil.Proofs.Java.TemplateText

/-!
# Which templates are accepted, and what becomes of them

A class is built while its names and types are checked, and the first check that fails ends it. What
is checked is laid out here as a list, the `mentions` of a template and a request in reading order,
each of which has an offence of its own or none. Building fails with the first offence in that list
(`error?_buildClass`), so that the two questions about it come apart: whether something is wrong at
all, which is asked of every mention for itself (`IsAcceptable`), and which of several things that
are wrong is told (`IsFirstOffence`). What a mention must be is told by the grammar, not by its
check.

`buildClass_exact` puts this together with what a built class has from its template (`IsModelOf`),
and `type_accepted_iff` reads off which spellings of types are accepted.
-/

namespace Stencil.Java

/-! ### Mentions -/

/-- **What a class is asked to be made of**, by its spelling: a name in its role, the type of a
field, or the type of what a method returns. -/
inductive Mention where
  | name (role : NameRole) (text : String)
  | value (spelling : String)
  | result (spelling : String)
deriving Repr, DecidableEq

namespace Mention

/-- What is mentioned. -/
def role : Mention → NameRole
  | name role _ => role
  | value _ | result _ => .type

/-- How it is spelt. -/
def text : Mention → String
  | name _ text => text
  | value spelling | result spelling => spelling

/-- Whether it can stand in a class. -/
def IsFine : Mention → Prop
  | name _ text => IsName text
  | value spelling => IsValueType spelling
  | result spelling => spelling = "void" ∨ IsValueType spelling

/-- What is wrong with it. -/
def HasProblem : Mention → NameProblem → Prop
  | name _ text, problem => ∃ fault, problem = .identifier fault ∧ HasFault text fault
  | value spelling, problem => HasTypeProblem spelling problem
  | result spelling, problem => spelling ≠ "void" ∧ HasTypeProblem spelling problem

instance : DecidablePred IsFine
  | name _ text => inferInstanceAs (Decidable (IsName text))
  | value spelling => inferInstanceAs (Decidable (IsValueType spelling))
  | result spelling => inferInstanceAs (Decidable (spelling = "void" ∨ IsValueType spelling))

/-- The offence with which its check fails, if it does. -/
def offence? (artifact : String) : Mention → Option InvalidName
  | name role text => error? (checkName artifact role text)
  | value spelling => error? (valueType artifact spelling)
  | result spelling => error? (resultType artifact spelling)

end Mention

/-- The segments of a package. The unnamed package has none. -/
def packageMentions (package : String) : List Mention :=
  if package.isEmpty then [] else (segments package).map (.name .packageSegment)

/-- The name of a field, then its type. -/
def fieldMentions (f : FieldTemplate) : List Mention :=
  [.name .fieldName f.name, .value f.type]

/-- The name of a method, then what it returns. -/
def methodMentions (m : MethodTemplate) : List Mention :=
  [.name .methodName m.name, .result m.returns]

/-- **All that is mentioned, in reading order**: the segments of the package, the name of the class,
the fields and the methods. -/
def mentions (t : ClassTemplate) (r : Request) : List Mention :=
  packageMentions r.package ++ .name .className r.className ::
    (t.fields.flatMap fieldMentions ++ t.methods.flatMap methodMentions)

/-! ### Checks -/

section

variable {artifact : String}

theorem error?_checkName_eq_none_iff {role : NameRole} {name : String} :
    error? (checkName artifact role name) = none ↔ IsName name := by
  rw [← fault?_eq_none_iff]
  unfold checkName
  cases fault? name <;> simp [error?]

theorem error?_checkName_eq_some_iff {role : NameRole} {name : String} {e : InvalidName} :
    error? (checkName artifact role name) = some e ↔
      e.artifact = artifact ∧ e.role = role ∧ e.name = name ∧
        ∃ fault, e.problem = .identifier fault ∧ HasFault name fault := by
  obtain ⟨artifact', role', name', problem⟩ := e
  simp only [← fault?_eq_some_iff]
  unfold checkName
  constructor
  · intro h
    -- a name is checked by looking for its fault, and nothing else is put into the error
    cases hfault : fault? name with
    | none =>
      rw [hfault] at h
      contradiction
    | some fault =>
      rw [hfault] at h
      cases h
      exact ⟨rfl, rfl, rfl, fault, rfl, rfl⟩
  · rintro ⟨rfl, rfl, rfl, fault, rfl, hfault⟩
    rw [hfault]
    rfl

theorem error?_valueType_eq_none_iff {spelling : String} :
    error? (valueType artifact spelling) = none ↔ IsValueType spelling := by
  rw [← exists_readValueType_iff]
  unfold valueType
  cases readValueType spelling <;> simp [error?, Except.mapError]

theorem error?_valueType_eq_some_iff {spelling : String} {e : InvalidName} :
    error? (valueType artifact spelling) = some e ↔
      e.artifact = artifact ∧ e.role = .type ∧ e.name = spelling ∧
        HasTypeProblem spelling e.problem := by
  obtain ⟨artifact', role, name, problem⟩ := e
  rw [← readValueType_eq_error_iff]
  unfold valueType
  constructor
  · intro h
    -- the error tells the whole spelling and the problem that reading it met
    cases hread : readValueType spelling with
    | ok t =>
      rw [hread] at h
      contradiction
    | error problem' =>
      rw [hread] at h
      cases h
      exact ⟨rfl, rfl, rfl, rfl⟩
  · rintro ⟨rfl, rfl, rfl, hproblem⟩
    rw [hproblem]
    rfl

namespace Mention

/-- **The check of a mention passes** exactly if it can stand in a class. -/
theorem offence?_eq_none_iff {m : Mention} : m.offence? artifact = none ↔ m.IsFine := by
  cases m with
  | name role text => exact error?_checkName_eq_none_iff
  | value spelling => exact error?_valueType_eq_none_iff
  | result spelling =>
    show error? (resultType artifact spelling) = none ↔ spelling = "void" ∨ IsValueType spelling
    unfold resultType
    split
    · next hvoid => exact iff_of_true rfl (Or.inl hvoid)
    · next hvoid => rw [error?_valueType_eq_none_iff, or_iff_right hvoid]

/-- **It fails with what is wrong with the mention**, and tells its role and its spelling. -/
theorem offence?_eq_some_iff {m : Mention} {e : InvalidName} :
    m.offence? artifact = some e ↔
      e.artifact = artifact ∧ e.role = m.role ∧ e.name = m.text ∧ m.HasProblem e.problem := by
  cases m with
  | name role text => exact error?_checkName_eq_some_iff
  | value spelling => exact error?_valueType_eq_some_iff
  | result spelling =>
    show error? (resultType artifact spelling) = some e ↔ e.artifact = artifact ∧ e.role = .type ∧
      e.name = spelling ∧ spelling ≠ "void" ∧ HasTypeProblem spelling e.problem
    unfold resultType
    split
    · -- `void` is a result of its own, and is not read as a type
      next hvoid => exact iff_of_false (fun h => nomatch h) fun h => h.2.2.2.1 hvoid
    · next hvoid =>
      rw [error?_valueType_eq_some_iff]
      simp only [hvoid, ne_eq, not_false_iff, true_and]

end Mention

/-! ### The order of the checks -/

variable (artifact)

theorem error?_checkPackage (package : String) :
    error? (checkPackage artifact package) =
      (packageMentions package).findSome? (Mention.offence? artifact) := by
  unfold checkPackage packageMentions
  cases package.isEmpty with
  | true => rfl
  | false =>
    rw [if_neg Bool.false_ne_true, if_neg Bool.false_ne_true, List.findSome?_map]
    unfold qualifiedFault?
    -- the first bad segment is found in the same way by both sides
    induction segments package with
    | nil => rfl
    | cons segment rest ih =>
      rw [findSome?_cons_or, findSome?_cons_or]
      show _ = (error? (checkName artifact .packageSegment segment)).or _
      unfold checkName
      cases fault? segment with
      | none => exact ih
      | some fault => rfl

theorem error?_fieldOf (f : FieldTemplate) :
    error? (fieldOf artifact f) = (fieldMentions f).findSome? (Mention.offence? artifact) := by
  have htype : ∀ _ : Unit, error? (valueType artifact f.type >>= fun type =>
      pure ({ name := f.name, type, modifiers := .ofList f.modifiers } : Field)) =
        error? (valueType artifact f.type) := by
    intro _
    cases valueType artifact f.type <;> rfl
  unfold fieldOf fieldMentions
  rw [findSome?_cons_or, findSome?_cons_or, List.findSome?_nil, Option.or_none]
  exact error?_bind htype

theorem error?_methodOf (m : MethodTemplate) :
    error? (methodOf artifact m) = (methodMentions m).findSome? (Mention.offence? artifact) := by
  have hreturns : ∀ _ : Unit, error? (resultType artifact m.returns >>= fun returns =>
      pure ({ name := m.name, returns, modifiers := .ofList m.modifiers, body := m.body } :
        Method)) = error? (resultType artifact m.returns) := by
    intro _
    cases resultType artifact m.returns <;> rfl
  unfold methodOf methodMentions
  rw [findSome?_cons_or, findSome?_cons_or, List.findSome?_nil, Option.or_none]
  exact error?_bind hreturns

end

/-- **A class fails to build with the first offence of what is mentioned.** -/
theorem error?_buildClass (t : ClassTemplate) (r : Request) :
    error? (buildClass t r) = (mentions t r).findSome? (Mention.offence? r.qualifiedName) := by
  -- fields and methods are visited in order, each with all that it mentions
  have hfields : error? (t.fields.mapM (fieldOf r.qualifiedName)) =
      (t.fields.flatMap fieldMentions).findSome? (Mention.offence? r.qualifiedName) := by
    rw [findSome?_flatMap, error?_mapM, funext (error?_fieldOf r.qualifiedName)]
  have hmethods : error? (t.methods.mapM (methodOf r.qualifiedName)) =
      (t.methods.flatMap methodMentions).findSome? (Mention.offence? r.qualifiedName) := by
    rw [findSome?_flatMap, error?_mapM, funext (error?_methodOf r.qualifiedName)]
  -- the last step is the only one whose result is put into the class
  have hlast : ∀ fields, error? (t.methods.mapM (methodOf r.qualifiedName) >>= fun methods =>
      pure (⟨r.package, r.className, .ofList t.modifiers, t.shownDoc?, fields, methods⟩ :
        ClassModel)) = error? (t.methods.mapM (methodOf r.qualifiedName)) := by
    intro fields
    cases t.methods.mapM (methodOf r.qualifiedName) <;> rfl
  unfold buildClass mentions
  rw [error?_bind fun _ => error?_bind fun _ => error?_bind hlast, error?_checkPackage, hfields,
    hmethods, List.findSome?_append, findSome?_cons_or, List.findSome?_append]
  rfl

/-! ### What is accepted -/

section

variable {t : ClassTemplate} {r : Request}

/-- **A template and a request to which nothing is wrong.** -/
structure IsAcceptable (t : ClassTemplate) (r : Request) : Prop where
  package : r.package = "" ∨ ∀ segment ∈ segments r.package, IsName segment
  className : IsName r.className
  fields : ∀ f ∈ t.fields, IsName f.name ∧ IsValueType f.type
  methods : ∀ m ∈ t.methods, IsName m.name ∧ (m.returns = "void" ∨ IsValueType m.returns)

theorem forall_packageMentions_iff {package : String} :
    (∀ m ∈ packageMentions package, m.IsFine) ↔
      package = "" ∨ ∀ segment ∈ segments package, IsName segment := by
  unfold packageMentions
  rw [← String.isEmpty_iff]
  cases package.isEmpty with
  | true => exact iff_of_true (fun m hm => absurd hm List.not_mem_nil) (Or.inl rfl)
  | false =>
    rw [if_neg Bool.false_ne_true, List.forall_mem_map]
    exact (or_iff_right Bool.false_ne_true).symm

theorem forall_fieldMentions_iff {f : FieldTemplate} :
    (∀ m ∈ fieldMentions f, m.IsFine) ↔ IsName f.name ∧ IsValueType f.type := by
  unfold fieldMentions
  rw [List.forall_mem_cons, List.forall_mem_singleton]
  exact Iff.rfl

theorem forall_methodMentions_iff {m : MethodTemplate} :
    (∀ x ∈ methodMentions m, x.IsFine) ↔
      IsName m.name ∧ (m.returns = "void" ∨ IsValueType m.returns) := by
  unfold methodMentions
  rw [List.forall_mem_cons, List.forall_mem_singleton]
  exact Iff.rfl

/-- Nothing is wrong exactly if nothing is wrong with anything that is mentioned. -/
theorem isAcceptable_iff : IsAcceptable t r ↔ ∀ m ∈ mentions t r, m.IsFine := by
  unfold mentions
  simp only [List.forall_mem_append, List.forall_mem_cons, List.forall_mem_flatMap,
    forall_packageMentions_iff, forall_fieldMentions_iff, forall_methodMentions_iff]
  constructor
  · rintro ⟨hpackage, hname, hfields, hmethods⟩
    exact ⟨hpackage, hname, hfields, hmethods⟩
  · rintro ⟨hpackage, hname, hfields, hmethods⟩
    exact ⟨hpackage, hname, hfields, hmethods⟩

/-- **A class is built** exactly if nothing is wrong. -/
theorem exists_buildClass_ok_iff : (∃ c, buildClass t r = .ok c) ↔ IsAcceptable t r := by
  rw [exists_ok_iff, error?_buildClass, List.findSome?_eq_none_iff, isAcceptable_iff]
  exact forall₂_congr fun _ _ => Mention.offence?_eq_none_iff

/-- **The first of the things that are wrong**, in reading order: what it is, how it is spelt, what
is wrong with it, and the artifact for which it was asked. -/
structure IsFirstOffence (t : ClassTemplate) (r : Request) (e : InvalidName) : Prop where
  artifact : e.artifact = r.qualifiedName
  first : ∃ before m behind, mentions t r = before ++ m :: behind ∧ (∀ x ∈ before, x.IsFine) ∧
    e.role = m.role ∧ e.name = m.text ∧ m.HasProblem e.problem

/-- **A class is refused with the first thing that is wrong.** -/
theorem buildClass_eq_error_iff {e : InvalidName} :
    buildClass t r = .error e ↔ IsFirstOffence t r e := by
  rw [← error?_eq_some_iff, error?_buildClass, List.findSome?_eq_some_iff]
  simp only [Mention.offence?_eq_none_iff, Mention.offence?_eq_some_iff]
  constructor
  · rintro ⟨before, m, behind, hsplit, ⟨hartifact, hrole, hname, hproblem⟩, hbefore⟩
    exact ⟨hartifact, before, m, behind, hsplit, hbefore, hrole, hname, hproblem⟩
  · rintro ⟨hartifact, before, m, behind, hsplit, hbefore, hrole, hname, hproblem⟩
    exact ⟨before, m, behind, hsplit, ⟨hartifact, hrole, hname, hproblem⟩, hbefore⟩

/-! ### What a built class has from its template -/

/-- The modifiers of a list, each of them once. -/
def HoldsJust (s : ModifierSet) (ms : List Modifier) : Prop :=
  s.toList.Nodup ∧ ∀ m, m ∈ s.toList ↔ m ∈ ms

theorem holdsJust_ofList (ms : List Modifier) : HoldsJust (.ofList ms) ms := by
  refine ⟨(ModifierSet.ofList ms).sorted.imp fun hrank heq => ?_, fun m => by simp⟩
  rw [heq] at hrank
  exact Nat.lt_irrefl _ hrank

/-- A field as its template describes it. -/
structure Field.IsModelOf (g : Field) (f : FieldTemplate) : Prop where
  name : g.name = f.name
  type : g.type.text = f.type
  modifiers : HoldsJust g.modifiers f.modifiers

/-- A method as its template describes it. -/
structure Method.IsModelOf (n : Method) (m : MethodTemplate) : Prop where
  name : n.name = m.name
  returns : n.returns.text = m.returns
  modifiers : HoldsJust n.modifiers m.modifiers
  body : n.body = m.body

/-- **A class as a template describes it**, for a request: its members are those of the template,
one by one and in order, its types are written as they are spelt there, and its documentation is
that of the template, unless that is empty. -/
structure ClassModel.IsModelOf (c : ClassModel) (t : ClassTemplate) (r : Request) : Prop where
  package : c.package = r.package
  name : c.name = r.className
  modifiers : HoldsJust c.modifiers t.modifiers
  doc : ∀ text, c.doc = some text ↔ t.doc = some text ∧ text ≠ ""
  fields : List.Forall₂ (fun f g => Field.IsModelOf g f) t.fields c.fields
  methods : List.Forall₂ (fun m n => Method.IsModelOf n m) t.methods c.methods

theorem isModelOf_of_fieldOf {artifact : String} {f : FieldTemplate} {g : Field}
    (h : fieldOf artifact f = .ok g) : g.IsModelOf f := by
  obtain ⟨⟨⟩, -, h⟩ := bind_ok h
  obtain ⟨type, htype, h⟩ := bind_ok h
  cases h
  exact ⟨rfl, (text_of_valueType htype).1, holdsJust_ofList f.modifiers⟩

theorem isModelOf_of_methodOf {artifact : String} {m : MethodTemplate} {n : Method}
    (h : methodOf artifact m = .ok n) : n.IsModelOf m := by
  obtain ⟨⟨⟩, -, h⟩ := bind_ok h
  obtain ⟨returns, hreturns, h⟩ := bind_ok h
  cases h
  exact ⟨rfl, (text_of_resultType hreturns).1, holdsJust_ofList m.modifiers, rfl⟩

/-- **What is built is what the template describes.** -/
theorem isModelOf_of_buildClass {c : ClassModel} (h : buildClass t r = .ok c) :
    c.IsModelOf t r := by
  obtain ⟨-, -, fields, methods, hfields, hmethods, rfl⟩ := buildClass_ok h
  refine ⟨rfl, rfl, holdsJust_ofList t.modifiers, fun text => ?_, ?_, ?_⟩
  · show t.doc.filter (fun doc => !doc.isEmpty) = some text ↔ _
    rw [Option.filter_eq_some_iff, Bool.not_eq_true', Bool.eq_false_iff, Ne, String.isEmpty_iff]
  · exact (forall₂_of_mapM_ok hfields).imp fun _ _ => isModelOf_of_fieldOf
  · exact (forall₂_of_mapM_ok hmethods).imp fun _ _ => isModelOf_of_methodOf

end

/-! ### The whole of it -/

/-- **Building a class is exact.** It succeeds if nothing is wrong with the package, the name of the
class, and the names and types of its members. If something is, it fails with the first such thing,
and with none other. And what is built is what the template describes. -/
theorem buildClass_exact (t : ClassTemplate) (r : Request) :
    ((∃ c, buildClass t r = .ok c) ↔ IsAcceptable t r) ∧
    (∀ e, buildClass t r = .error e ↔ IsFirstOffence t r e) ∧
    ∀ c, buildClass t r = .ok c → c.IsModelOf t r :=
  ⟨exists_buildClass_ok_iff, fun _ => buildClass_eq_error_iff, fun _ => isModelOf_of_buildClass⟩

/-- Of a field with a reserved name and no type, a method with no return type, and nothing wrong
before them, the name of the field is what is told. Without the two members the template is
accepted, and an empty documentation is none. -/
theorem buildClass_exact_reserved :
    let good : FieldTemplate := ⟨"xs", "a.B[][]", [.final, .static, .final]⟩
    let bad : FieldTemplate := ⟨"class", "void[]", []⟩
    let t : ClassTemplate := { className := "C", doc := some "", fields := [good] }
    let t' := { t with fields := [good, bad], methods := [{ name := "m", returns := "a..b" }] }
    buildClass t' ⟨"p.q", "C"⟩ = .error ⟨"p.q.C", .fieldName, "class", .identifier .reserved⟩ ∧
      ∃ c, buildClass t ⟨"p.q", "C"⟩ = .ok c ∧ c.doc = none ∧
        c.fields.map (·.type.text) = ["a.B[][]"] := by
  intro good bad t t'
  obtain ⟨-, hrefused, -⟩ := buildClass_exact t' ⟨"p.q", "C"⟩
  obtain ⟨haccepted, -, hbuilt⟩ := buildClass_exact t ⟨"p.q", "C"⟩
  constructor
  · -- two segments, the class, and the first field are fine
    refine (hrefused _).2 ⟨by decide, [.name .packageSegment "p", .name .packageSegment "q",
      .name .className "C", .name .fieldName "xs", .value "a.B[][]"], .name .fieldName "class",
      [.value "void[]", .name .methodName "m", .result "a..b"], by decide, by decide +kernel,
      rfl, rfl, .reserved, rfl, .reserved (by decide)⟩
  · have hacceptable : IsAcceptable t ⟨"p.q", "C"⟩ :=
      isAcceptable_iff.2 (by decide +kernel)
    obtain ⟨c, hc⟩ := haccepted.2 hacceptable
    obtain ⟨-, -, -, hdoc, hfields, -⟩ := hbuilt c hc
    -- the doc is there but empty, so none is shown
    refine ⟨c, hc, Option.eq_none_iff_forall_ne_some.2 fun text htext => ?_, ?_⟩
    · obtain ⟨hempty, hne⟩ := (hdoc text).1 htext
      exact hne (Option.some.inj hempty).symm
    · obtain ⟨g, rest, hg, hrest, heq⟩ := List.forall₂_cons_left_iff.1 hfields
      rw [heq, List.forall₂_nil_left_iff.1 hrest, List.map_singleton, hg.type]

/-! ### One type among other things -/

/-- If all items are so with another one in the place of one of them, then all of them are so
exactly if that one is. -/
theorem forall_mem_replace_iff {α : Type} {P : α → Prop} {before behind : List α} {a a' : α}
    (h : ∀ x ∈ before ++ a' :: behind, P x) : (∀ x ∈ before ++ a :: behind, P x) ↔ P a := by
  simp only [List.forall_mem_append, List.forall_mem_cons] at h ⊢
  obtain ⟨hbefore, -, hbehind⟩ := h
  constructor
  · rintro ⟨-, ha, -⟩
    exact ha
  · intro ha
    exact ⟨hbefore, ha, hbehind⟩

section

variable {t : ClassTemplate} {r : Request}

/-- Where nothing else is wrong, the type of a field decides. -/
theorem isAcceptable_iff_fieldType {before behind : List FieldTemplate} {f : FieldTemplate}
    (hfields : t.fields = before ++ f :: behind)
    (hint : IsAcceptable { t with fields := before ++ { f with type := "int" } :: behind } r) :
    IsAcceptable t r ↔ IsValueType f.type := by
  have hname : IsName f.name :=
    (hint.fields _ (List.mem_append_right _ List.mem_cons_self)).1
  -- the other fields are the same in both templates, and the template with `int` is accepted
  have hall : (∀ g ∈ t.fields, IsName g.name ∧ IsValueType g.type) ↔
      IsName f.name ∧ IsValueType f.type := by
    rw [hfields]
    exact forall_mem_replace_iff hint.fields
  constructor
  · intro h
    exact (hall.1 h.fields).2
  · intro htype
    exact ⟨hint.package, hint.className, hall.2 ⟨hname, htype⟩, hint.methods⟩

/-- Where nothing else is wrong, what a method returns decides. -/
theorem isAcceptable_iff_returns {before behind : List MethodTemplate} {m : MethodTemplate}
    (hmethods : t.methods = before ++ m :: behind)
    (hint : IsAcceptable { t with methods := before ++ { m with returns := "int" } :: behind } r) :
    IsAcceptable t r ↔ m.returns = "void" ∨ IsValueType m.returns := by
  have hname : IsName m.name :=
    (hint.methods _ (List.mem_append_right _ List.mem_cons_self)).1
  have hall : (∀ n ∈ t.methods, IsName n.name ∧ (n.returns = "void" ∨ IsValueType n.returns)) ↔
      IsName m.name ∧ (m.returns = "void" ∨ IsValueType m.returns) := by
    rw [hmethods]
    exact forall_mem_replace_iff hint.methods
  constructor
  · intro h
    exact (hall.1 h.methods).2
  · intro hreturns
    exact ⟨hint.package, hint.className, hint.fields, hall.2 ⟨hname, hreturns⟩⟩

/-- The types of a class that is built have no white space in them, and nothing that would end
them. -/
theorem solid_of_buildClass {c : ClassModel} (h : buildClass t r = .ok c) :
    ∀ spelling ∈ t.fields.map (·.type) ++ t.methods.map (·.returns),
      ∀ x ∈ spelling.toList, Text.isSpace x = false ∧
        x ∉ ['(', ')', '\x7b', '\x7d', ';', '/'] := by
  have hspelt := spelt_of_buildClass h
  intro spelling hspelling x hx
  -- what is accepted is spelt as a token, and these characters are in none
  have htoken : IsToken spelling.toList := by
    simp only [List.mem_append, List.mem_map] at hspelling
    rcases hspelling with ⟨f, hf, rfl⟩ | ⟨m, hm, rfl⟩
    · exact (hspelt.fields f hf).1
    · exact (hspelt.methods m hm).1
  have hothers : ∀ y ∈ ['(', ')', '\x7b', '\x7d', ';', '/'], isTokenChar y = false := by
    simp only [List.forall_mem_cons]
    exact ⟨by decide, by decide, by decide, by decide, by decide, by decide,
      fun _ hy => nomatch hy⟩
  exact ⟨htoken.solid x hx, fun hmem => htoken.ne hx (hothers x hmem) rfl⟩

end

/-- **The types that are accepted.** Where nothing is wrong but perhaps the type of one field, so
that the class is built with `int` in its place, it is built exactly if the type is a keyword of a
primitive type or a qualified name, with pairs of brackets behind it. What a method returns may
also be `void`. No type of a class that is built has white space, a parenthesis, a brace, a
semicolon or a slash in it. -/
theorem type_accepted_iff (t : ClassTemplate) (r : Request) :
    (∀ before f behind, t.fields = before ++ f :: behind →
      (∃ c, buildClass { t with fields := before ++ { f with type := "int" } :: behind } r =
        .ok c) →
      ((∃ c, buildClass t r = .ok c) ↔ IsValueType f.type)) ∧
    (∀ before m behind, t.methods = before ++ m :: behind →
      (∃ c, buildClass { t with methods := before ++ { m with returns := "int" } :: behind } r =
        .ok c) →
      ((∃ c, buildClass t r = .ok c) ↔ IsValueType m.returns ∨ m.returns = "void")) ∧
    ∀ c, buildClass t r = .ok c →
      ∀ spelling ∈ t.fields.map (·.type) ++ t.methods.map (·.returns),
        ∀ x ∈ spelling.toList, Text.isSpace x = false ∧
          x ∉ ['(', ')', '\x7b', '\x7d', ';', '/'] := by
  simp only [exists_buildClass_ok_iff]
  -- a template is accepted exactly if it is acceptable, which is asked of each type by itself
  refine ⟨fun before f behind hfields hint => isAcceptable_iff_fieldType hfields hint, ?_,
    fun c hc => solid_of_buildClass hc⟩
  intro before m behind hmethods hint
  rw [or_comm]
  exact isAcceptable_iff_returns hmethods hint

/-- Brackets belong behind the word, a keyword is no segment of a name, and `void` is only
returned. -/
theorem type_accepted_iff_brackets :
    let field (spelling : String) : ClassTemplate :=
      { className := "C", fields := [⟨"x", spelling, []⟩] }
    let method (spelling : String) : ClassTemplate :=
      { className := "C", methods := [{ name := "m", returns := spelling }] }
    (∃ c, buildClass (field "a.b[][]") ⟨"p", "C"⟩ = .ok c) ∧
      (¬ ∃ c, buildClass (field "a[].b") ⟨"p", "C"⟩ = .ok c) ∧
      (¬ ∃ c, buildClass (field "int.x") ⟨"p", "C"⟩ = .ok c) ∧
      (¬ ∃ c, buildClass (field "void") ⟨"p", "C"⟩ = .ok c) ∧
      ∃ c, buildClass (method "void") ⟨"p", "C"⟩ = .ok c := by
  intro field method
  have hfield : ∃ c, buildClass (field "int") ⟨"p", "C"⟩ = .ok c :=
    exists_buildClass_ok_iff.2 (isAcceptable_iff.2 (by decide +kernel))
  have hmethod : ∃ c, buildClass (method "int") ⟨"p", "C"⟩ = .ok c :=
    exists_buildClass_ok_iff.2 (isAcceptable_iff.2 (by decide +kernel))
  -- whether the template is accepted depends on this type alone
  have haccepted : ∀ spelling, (∃ c, buildClass (field spelling) ⟨"p", "C"⟩ = .ok c) ↔
      IsValueType spelling :=
    fun spelling => (type_accepted_iff (field spelling) ⟨"p", "C"⟩).1 [] _ [] rfl hfield
  refine ⟨(haccepted _).2 (by decide +kernel), (not_congr (haccepted _)).2 (by decide +kernel),
    (not_congr (haccepted _)).2 (by decide +kernel),
    (not_congr (haccepted _)).2 (by decide +kernel), ?_⟩
  obtain ⟨-, hreturned, -⟩ := type_accepted_iff (method "void") ⟨"p", "C"⟩
  exact (hreturned [] _ [] rfl hmethod).2 (Or.inr rfl)

end Stencil.Java
