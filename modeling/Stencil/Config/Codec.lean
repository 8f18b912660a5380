import Stencil.Config.Schema
import Stencil.Manifest

/-!
# Manifests and feeds as values

How the records of manifests and feeds are read from configuration values, and how they are
written as such. An absent documentation text or element has no entry of its own.
-/

namespace Stencil.Config

/-- A list of strings as a value. -/
def strings (items : List String) : Value :=
  .array (items.map .string)

/-! ### Words -/

/-- The words for modifiers. -/
def modifierWords : List (String × Modifier) :=
  Modifier.all.map fun m => (m.keyword, m)

/-- The words for strategies. -/
def strategyWords : List (String × Strategy) :=
  Strategy.all.map fun s => (s.name, s)

/-- Reads a modifier. -/
def readModifier (format : Format) : Value → Except DecodeError Modifier :=
  Value.readWord modifierWords format

/-- Reads a strategy. -/
def readStrategy (format : Format) : Value → Except DecodeError Strategy :=
  Value.readWord strategyWords format

/-- Modifiers as a value. -/
def modifiersValue (ms : List Modifier) : Value :=
  strings (ms.map (·.keyword))

/-! ### Feeds -/

/-- How a declaration is read. -/
def declarationSchema : Schema Declaration where
  name := "MarkedDeclaration"
  blank := ⟨"", "", none⟩
  closed := false
  fields := [
    ⟨"marker", true, fun v d => do return { d with marker := ← v.readString }⟩,
    ⟨"namespace", false, fun v d => do return { d with package := ← v.readString }⟩,
    ⟨"element", false, fun v d => do return { d with element := ← v.readString? }⟩]

/-- How a round is read. -/
def roundSchema (format : Format) : Schema Round where
  name := "Round"
  blank := ⟨[]⟩
  closed := false
  fields := [
    ⟨"declarations", false, fun v _ =>
      do return ⟨← v.readList (declarationSchema.read format)⟩⟩]

/-- How a feed is read. -/
def feedSchema (format : Format) : Schema Feed where
  name := "RoundsFile"
  blank := ⟨[]⟩
  closed := true
  fields := [
    ⟨"rounds", false, fun v _ => do return ⟨← v.readList ((roundSchema format).read format)⟩⟩]

/-- A declaration as a value. -/
def declarationValue (d : Declaration) : Value :=
  .tableOf ([("marker", .string d.marker), ("namespace", .string d.package)] ++
    (d.element.map fun element => ("element", Value.string element)).toList)

/-- A round as a value. -/
def roundValue (r : Round) : Value :=
  .tableOf [("declarations", .array (r.declarations.map declarationValue))]

/-! ### Templates -/

/-- How a field is read. -/
def fieldSchema (format : Format) : Schema FieldTemplate where
  name := "FieldTemplate"
  blank := ⟨"", "", []⟩
  closed := true
  fields := [
    ⟨"name", true, fun v f => do return { f with name := ← v.readString }⟩,
    ⟨"type", true, fun v f => do return { f with type := ← v.readString }⟩,
    ⟨"modifiers", false, fun v f =>
      do return { f with modifiers := ← v.readList (readModifier format) }⟩]

/-- How a method is read. -/
def methodSchema (format : Format) : Schema MethodTemplate where
  name := "MethodTemplate"
  blank := { name := "" }
  closed := true
  fields := [
    ⟨"name", true, fun v m => do return { m with name := ← v.readString }⟩,
    ⟨"returns", false, fun v m => do return { m with returns := ← v.readString }⟩,
    ⟨"modifiers", false, fun v m =>
      do return { m with modifiers := ← v.readList (readModifier format) }⟩,
    ⟨"body", false, fun v m => do return { m with body := ← v.readList Value.readString }⟩]

/-- How a template is read. What it does not mention is as in the default template. -/
def templateSchema (format : Format) : Schema ClassTemplate where
  name := "ClassTemplate"
  blank := .default
  closed := true
  fields := [
    ⟨"class_name", false, fun v t => do return { t with className := ← v.readString }⟩,
    ⟨"doc", false, fun v t => do return { t with doc := ← v.readString? }⟩,
    ⟨"modifiers", false, fun v t =>
      do return { t with modifiers := ← v.readList (readModifier format) }⟩,
    ⟨"fields", false, fun v t =>
      do return { t with fields := ← v.readList ((fieldSchema format).read format) }⟩,
    ⟨"methods", false, fun v t =>
      do return { t with methods := ← v.readList ((methodSchema format).read format) }⟩]

/-- A field as a value. -/
def fieldValue (f : FieldTemplate) : Value :=
  .tableOf [("name", .string f.name), ("type", .string f.type),
    ("modifiers", modifiersValue f.modifiers)]

/-- A method as a value. -/
def methodValue (m : MethodTemplate) : Value :=
  .tableOf [("name", .string m.name), ("returns", .string m.returns),
    ("modifiers", modifiersValue m.modifiers), ("body", strings m.body)]

/-- A template as a value. -/
def templateValue (t : ClassTemplate) : Value :=
  .tableOf ([("class_name", .string t.className)] ++
    (t.doc.map fun doc => ("doc", Value.string doc)).toList ++
    [("modifiers", modifiersValue t.modifiers), ("fields", .array (t.fields.map fieldValue)),
      ("methods", .array (t.methods.map methodValue))])

/-! ### Manifests -/

/-- How the generator section is read. -/
def generatorSchema (format : Format) : Schema Generator where
  name := "GeneratorConfig"
  blank := { marker := "" }
  closed := true
  fields := [
    ⟨"marker", true, fun v g => do return { g with marker := ← v.readString }⟩,
    ⟨"strategy", false, fun v g => do return { g with strategy := ← readStrategy format v }⟩]

/-- How a manifest is read. -/
def manifestSchema (format : Format) : Schema Manifest where
  name := "Manifest"
  blank := { generator := { marker := "" } }
  closed := true
  fields := [
    ⟨"generator", true, fun v m =>
      do return { m with generator := ← (generatorSchema format).read format v }⟩,
    ⟨"template", false, fun v m =>
      do return { m with template := ← (templateSchema format).read format v }⟩]

/-- The generator section as a value. -/
def generatorValue (g : Generator) : Value :=
  .tableOf [("marker", .string g.marker), ("strategy", .string g.strategy.name)]

/-- A manifest as a value. -/
def manifestValue (m : Manifest) : Value :=
  .tableOf [("generator", generatorValue m.generator), ("template", templateValue m.template)]

end Stencil.Config
