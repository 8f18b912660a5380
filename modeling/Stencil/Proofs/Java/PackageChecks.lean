import Stencil.Java.ClassModel.Build
import Stencil.Proofs.Success

/-!
# Building in one package and in another

To build a class is to check its package and then to build its parts, and the parts know the package
only by the artifact that their errors name. So a template that builds in one package builds in
every package that is one (`exists_buildClass_iff`), and what is wrong with a template is wrong with
it in every package (`buildClass_of_unnamed_error`).
-/

namespace Stencil.Java

/-- A name for a package: none at all, or identifiers with dots between them. -/
def IsPackage (package : String) : Prop :=
  package = "" ∨ qualifiedFault? package = none

theorem checkPackage_of_isPackage {package : String} (h : IsPackage package) (artifact : String) :
    checkPackage artifact package = .ok () := by
  unfold checkPackage
  rcases h with rfl | h
  · rfl
  · rw [h]
    split <;> rfl

theorem exists_checkPackage_error {package : String} (h : ¬ IsPackage package)
    (artifact : String) : ∃ e, checkPackage artifact package = .error e := by
  obtain ⟨hnamed, hfault⟩ := not_or.1 h
  obtain ⟨⟨segment, fault⟩, hfault⟩ := Option.ne_none_iff_exists'.1 hfault
  unfold checkPackage
  rw [if_neg fun hempty => hnamed (String.isEmpty_iff.1 hempty), hfault]
  exact ⟨_, rfl⟩

/-! ### Errors and the artifacts that they name -/

/-- The same offence in another artifact. -/
def InvalidName.within (artifact : String) (e : InvalidName) : InvalidName :=
  { e with artifact }

section

variable (artifact other : String)

theorem checkName_within (role : NameRole) (name : String) :
    (checkName artifact role name).mapError (.within other) = checkName other role name := by
  unfold checkName
  split <;> rfl

theorem valueType_within (spelling : String) :
    (valueType artifact spelling).mapError (.within other) = valueType other spelling := by
  unfold valueType
  cases readValueType spelling <;> rfl

theorem resultType_within (spelling : String) :
    (resultType artifact spelling).mapError (.within other) = resultType other spelling := by
  unfold resultType
  split
  · rfl
  · exact valueType_within artifact other spelling

theorem fieldOf_within (f : FieldTemplate) :
    (fieldOf artifact f).mapError (.within other) = fieldOf other f := by
  unfold fieldOf
  rw [mapError_bind, checkName_within]
  refine congrArg _ (funext fun _ => ?_)
  rw [mapError_bind, valueType_within]
  rfl

theorem methodOf_within (m : MethodTemplate) :
    (methodOf artifact m).mapError (.within other) = methodOf other m := by
  unfold methodOf
  rw [mapError_bind, checkName_within]
  refine congrArg _ (funext fun _ => ?_)
  rw [mapError_bind, resultType_within]
  rfl

/-! ### The parts of a class -/

/-- The members of the class of a template, once its name is checked. -/
def classParts (artifact className : String) (t : ClassTemplate) :
    Except InvalidName (List Field × List Method) := do
  checkName artifact .className className
  let fields ← t.fields.mapM (fieldOf artifact)
  let methods ← t.methods.mapM (methodOf artifact)
  return (fields, methods)

/-- The artifact is only what errors are told with. -/
theorem classParts_within (className : String) (t : ClassTemplate) :
    (classParts artifact className t).mapError (.within other) = classParts other className t := by
  unfold classParts
  rw [mapError_bind, checkName_within]
  refine congrArg _ (funext fun _ => ?_)
  rw [mapError_bind, mapError_mapM, funext (fieldOf_within artifact other)]
  refine congrArg _ (funext fun _ => ?_)
  rw [mapError_bind, mapError_mapM, funext (methodOf_within artifact other)]
  rfl

end

/-- **A class is built by a check of its package and of its parts.** -/
theorem buildClass_eq (t : ClassTemplate) (r : Request) :
    buildClass t r = checkPackage r.qualifiedName r.package >>= fun _ =>
      (classParts r.qualifiedName r.className t).map fun parts =>
        ⟨r.package, r.className, .ofList t.modifiers, t.shownDoc?, parts.1, parts.2⟩ := by
  unfold buildClass classParts
  refine congrArg _ (funext fun _ => ?_)
  -- the steps behind the check of the package are those of the parts, one by one
  cases checkName r.qualifiedName .className r.className with
  | error e => rfl
  | ok _ =>
    cases t.fields.mapM (fieldOf r.qualifiedName) with
    | error e => rfl
    | ok fields => cases t.methods.mapM (methodOf r.qualifiedName) <;> rfl

variable {t : ClassTemplate} {r : Request}

theorem buildClass_of_isPackage (h : IsPackage r.package) :
    buildClass t r = (classParts r.qualifiedName r.className t).map fun parts =>
      ⟨r.package, r.className, .ofList t.modifiers, t.shownDoc?, parts.1, parts.2⟩ := by
  rw [buildClass_eq, checkPackage_of_isPackage h]
  rfl

theorem exists_buildClass_error (h : ¬ IsPackage r.package) :
    ∃ e, buildClass t r = .error e := by
  obtain ⟨e, he⟩ := exists_checkPackage_error h r.qualifiedName
  rw [buildClass_eq, he]
  exact ⟨e, rfl⟩

theorem isPackage_of_buildClass {c : ClassModel} (h : buildClass t r = .ok c) :
    IsPackage r.package := by
  refine Classical.byContradiction fun hpackage => ?_
  obtain ⟨e, he⟩ := exists_buildClass_error (t := t) hpackage
  rw [he] at h
  contradiction

/-- **A template that builds in the unnamed package** builds in every package. -/
theorem exists_buildClass_iff {c : ClassModel}
    (h : buildClass t ⟨"", r.className⟩ = .ok c) :
    (∃ c', buildClass t r = .ok c') ↔ IsPackage r.package := by
  constructor
  · -- what was built has passed the check of its package
    rintro ⟨c', hc'⟩
    exact isPackage_of_buildClass hc'
  · intro hpackage
    rw [buildClass_of_isPackage (.inl rfl)] at h
    -- the parts are checked without a look at the package, which only stands in the errors
    rw [buildClass_of_isPackage hpackage,
      ← classParts_within (Request.mk "" r.className).qualifiedName]
    cases hparts : classParts (Request.mk "" r.className).qualifiedName r.className t with
    | error e =>
      rw [hparts] at h
      contradiction
    | ok parts => exact ⟨_, rfl⟩

/-- **What is wrong with a template in the unnamed package** is wrong with it in every package. -/
theorem buildClass_of_unnamed_error {e : InvalidName}
    (h : buildClass t ⟨"", r.className⟩ = .error e) (hpackage : IsPackage r.package) :
    buildClass t r = .error (e.within r.qualifiedName) := by
  rw [buildClass_of_isPackage (.inl rfl)] at h
  -- the first error is that of a part, and the package stands in it as the artifact
  rw [buildClass_of_isPackage hpackage,
    ← classParts_within (Request.mk "" r.className).qualifiedName]
  cases hparts : classParts (Request.mk "" r.className).qualifiedName r.className t with
  | error e' =>
    rw [hparts] at h
    rw [← Except.error.inj h]
    rfl
  | ok parts =>
    rw [hparts] at h
    contradiction

end Stencil.Java
