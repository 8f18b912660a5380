import Stencil.Java.ClassModel
import Stencil.Java.Identifier
import Stencil.Template

/-!
# From a template to a class model

`buildClass` checks every name and every type of a template and reads it into a class model. What
it refuses is told by the first offence in reading order: the segments of the package, the class,
the fields, the methods, and of a member its name before its type.
-/

namespace Stencil.Java

/-- What a refused name was meant to name. -/
inductive NameRole where
  | packageSegment
  | className
  | fieldName
  | methodName
  | type
deriving Repr, DecidableEq

/-- The role in words. -/
def NameRole.text : NameRole → String
  | .packageSegment => "namespace segment"
  | .className => "class name"
  | .fieldName => "field name"
  | .methodName => "method name"
  | .type => "type"

/-- Why a name is refused in its role. -/
inductive NameProblem where
  | identifier (fault : NameFault)
  | notAType
  | voidValue
deriving Repr, DecidableEq

/-- The problem in words. -/
def NameProblem.reason : NameProblem → String
  | .identifier fault => fault.reason
  | .notAType => "not a Java type"
  | .voidValue => "'void' is not a value type"

/-- A name that cannot stand in Java source, and the artifact in which it was to stand. -/
structure InvalidName where
  artifact : String
  role : NameRole
  name : String
  problem : NameProblem
deriving Repr, DecidableEq

/-- The offence in words. -/
def InvalidName.message (e : InvalidName) : String :=
  s!"invalid {e.role.text} '{e.name}' in '{e.artifact}': {e.problem.reason}"

/-- Refuses a name that is no identifier. -/
def checkName (artifact : String) (role : NameRole) (name : String) : Except InvalidName Unit :=
  match fault? name with
  | some fault => .error ⟨artifact, role, name, .identifier fault⟩
  | none => .ok ()

/-- Refuses a package with a segment that is no identifier. The unnamed package is fine. -/
def checkPackage (artifact package : String) : Except InvalidName Unit :=
  if package.isEmpty then .ok ()
  else
    match qualifiedFault? package with
    | some (segment, fault) => .error ⟨artifact, .packageSegment, segment, .identifier fault⟩
    | none => .ok ()

/-- What keeps a spelling from being the type of a value, or else the type. -/
def readValueType (spelling : String) : Except NameProblem TypeRef :=
  match TypeRef.parse? spelling with
  | none => .error .notAType
  | some t =>
    match t.innermost with
    | .void => .error .voidValue
    | .named name =>
      match qualifiedFault? name with
      | some (_, fault) => .error (.identifier fault)
      | none => .ok t
    | _ => .ok t

/-- The type of a value that a spelling stands for. -/
def valueType (artifact spelling : String) : Except InvalidName TypeRef :=
  (readValueType spelling).mapError (⟨artifact, .type, spelling, ·⟩)

/-- The type of a result that a spelling stands for: `void`, or the type of a value. -/
def resultType (artifact spelling : String) : Except InvalidName TypeRef :=
  if spelling = "void" then .ok .void else valueType artifact spelling

/-- The field that a template describes. -/
def fieldOf (artifact : String) (f : FieldTemplate) : Except InvalidName Field := do
  checkName artifact .fieldName f.name
  let type ← valueType artifact f.type
  return { name := f.name, type, modifiers := .ofList f.modifiers }

/-- The method that a template describes. -/
def methodOf (artifact : String) (m : MethodTemplate) : Except InvalidName Method := do
  checkName artifact .methodName m.name
  let returns ← resultType artifact m.returns
  return { name := m.name, returns, modifiers := .ofList m.modifiers, body := m.body }

/-- The class that answers a request according to a template. -/
def buildClass (t : ClassTemplate) (r : Request) : Except InvalidName ClassModel := do
  let artifact := r.qualifiedName
  checkPackage artifact r.package
  checkName artifact .className r.className
  let fields ← t.fields.mapM (fieldOf artifact)
  let methods ← t.methods.mapM (methodOf artifact)
  return {
    package := r.package
    name := r.className
    modifiers := .ofList t.modifiers
    doc := t.shownDoc?
    fields
    methods }

end Stencil.Java
