import Stencil.Modifier

/-!
# Class templates

A template describes the class that is stamped for every match: its name, documentation, modifiers
and members. Types and bodies are texts; what they mean is left to the strategy that emits them.
-/

namespace Stencil

/-- A field of the class to generate. -/
structure FieldTemplate where
  name : String
  type : String
  modifiers : List Modifier := []
deriving Repr, DecidableEq

/-- A method of the class to generate. It has no parameters. -/
structure MethodTemplate where
  name : String
  returns : String := "void"
  modifiers : List Modifier := []
  /-- The lines of the body. -/
  body : List String := []
deriving Repr, DecidableEq

/-- The class to generate. -/
structure ClassTemplate where
  className : String
  doc : Option String := none
  modifiers : List Modifier := []
  fields : List FieldTemplate := []
  methods : List MethodTemplate := []
deriving Repr, DecidableEq

namespace ClassTemplate

/-- The name of a class that nobody named. -/
def defaultClassName : String :=
  "AutoClazz"

/-- The documentation of a class that nobody described. -/
def defaultDoc : String :=
  "This class is generated by etch, do not edit."

/-- The template of a configuration that has none. -/
def default : ClassTemplate where
  className := defaultClassName
  doc := some defaultDoc
  modifiers := [.publicAccess, .final]
  fields := [⟨"age", "int", [.privateAccess]⟩]
  methods := [{ name := "getAge", modifiers := [.privateAccess] }]

/-- A template with a documentation text. -/
def withDoc (t : ClassTemplate) (text : String) : ClassTemplate :=
  { t with doc := some text }

/-- A template with one more modifier. -/
def addModifier (t : ClassTemplate) (m : Modifier) : ClassTemplate :=
  { t with modifiers := t.modifiers ++ [m] }

/-- A template with one more field. -/
def addField (t : ClassTemplate) (f : FieldTemplate) : ClassTemplate :=
  { t with fields := t.fields ++ [f] }

/-- A template with one more method. -/
def addMethod (t : ClassTemplate) (m : MethodTemplate) : ClassTemplate :=
  { t with methods := t.methods ++ [m] }

/-- The documentation text, if there is one to show. -/
def shownDoc? (t : ClassTemplate) : Option String :=
  t.doc.filter (!·.isEmpty)

end ClassTemplate

end Stencil
