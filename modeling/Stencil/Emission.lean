import Stencil.Java.ClassModel.Build
import Stencil.Java.ClassModel.Layout
import Stencil.Java.RawText
import Stencil.Output.Area
import Stencil.Strategy

/-!
# Emission

Either strategy turns a template and a request into an artifact, which has the qualified name of
the request. Only the structured one may refuse to.
-/

namespace Stencil

/-- Why an artifact was not generated. -/
inductive GenerateError where
  | write (e : WriteError)
  /-- An earlier declaration of the round asks for the same artifact. The one that is refused is
  named, if it is known. -/
  | duplicate (name : String) (declaration : Option String)
  | invalidName (e : Java.InvalidName)
deriving Repr, DecidableEq

namespace GenerateError

/-- The artifact that was not generated. -/
def artifact : GenerateError → String
  | write e => e.name
  | duplicate name _ => name
  | invalidName e => e.artifact

/-- The error in words. -/
def message : GenerateError → String
  | write e => e.message
  | duplicate name _ => s!"duplicate artifact '{name}'"
  | invalidName e => e.message

/-- The identifier of the sort of error. -/
def code : GenerateError → String
  | write _ => "etch::write_error"
  | duplicate _ _ => "etch::duplicate_artifact"
  | invalidName _ => "etch::invalid_identifier"

/-- What to do about the error. -/
def help? : GenerateError → Option String
  | duplicate name _ => some s!"another declaration in this round already produced '{name}'"
  | _ => none

/-- The error in words, followed by what caused it. -/
def causeChain : GenerateError → String
  | write e => e.message ++ ": " ++ e.fault.text
  | e => e.message

end GenerateError

namespace Strategy

/-- The artifact that answers a request according to a template. -/
def render (s : Strategy) (t : ClassTemplate) (r : Request) : Except GenerateError Artifact :=
  match s with
  | structured =>
    match Java.buildClass t r with
    | .ok c => .ok (r.artifact c.text)
    | .error e => .error (.invalidName e)
  | rawText => .ok (r.artifact (Java.RawText.text t r))

variable {t : ClassTemplate} {r : Request} {a : Artifact}

theorem render_structured_of_ok {c : Java.ClassModel} (h : Java.buildClass t r = .ok c) :
    structured.render t r = .ok (r.artifact c.text) := by
  unfold render
  dsimp only
  rw [h]

theorem render_structured_of_error {e : Java.InvalidName} (h : Java.buildClass t r = .error e) :
    structured.render t r = .error (.invalidName e) := by
  unfold render
  dsimp only
  rw [h]

/-- What the structured strategy renders is a class that was built. -/
theorem exists_buildClass_of_render (h : structured.render t r = .ok a) :
    ∃ c, Java.buildClass t r = .ok c ∧ a = r.artifact c.text := by
  cases hbuild : Java.buildClass t r with
  | error e =>
    rw [render_structured_of_error hbuild] at h
    contradiction
  | ok c =>
    rw [render_structured_of_ok hbuild] at h
    exact ⟨c, rfl, (Except.ok.inj h).symm⟩

/-- An artifact has the name of the request that it answers. -/
theorem name_of_render {s : Strategy} (h : s.render t r = .ok a) : a.name = r.qualifiedName := by
  cases s with
  | structured =>
    obtain ⟨c, -, rfl⟩ := exists_buildClass_of_render h
    rfl
  | rawText =>
    cases h
    rfl

end Strategy

end Stencil
