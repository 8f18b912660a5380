import Stencil.Java.TypeRef
import Stencil.Modifier
import Stencil.Request

/-!
# Class models

The model of one generated class: where it stands, what it is called, and the members that it
declares. In a model types are read and modifiers are sets; nothing in it depends on layout.
-/

namespace Stencil.Java

/-- A field of a class. -/
structure Field where
  name : String
  type : TypeRef
  modifiers : ModifierSet := .empty
deriving DecidableEq

/-- A method of a class, without parameters. -/
structure Method where
  name : String
  returns : TypeRef := .void
  modifiers : ModifierSet := .empty
  body : List String := []
deriving DecidableEq

/-- A class. -/
structure ClassModel where
  package : String
  name : String
  modifiers : ModifierSet := .empty
  doc : Option String := none
  fields : List Field := []
  methods : List Method := []
deriving DecidableEq

/-- Whether a method has any statement. -/
def Method.hasBody (m : Method) : Bool :=
  !m.body.isEmpty

namespace ClassModel

/-- The qualified name of a class. -/
def qualifiedName (c : ClassModel) : String :=
  Stencil.qualifiedName c.package c.name

/-- Whether a class declares anything. -/
def hasMembers (c : ClassModel) : Bool :=
  !c.fields.isEmpty || !c.methods.isEmpty

/-- A class with a documentation text. -/
def withDoc (c : ClassModel) (text : String) : ClassModel :=
  { c with doc := some text }

/-- A class with further modifiers. -/
def addModifiers (c : ClassModel) (ms : List Modifier) : ClassModel :=
  { c with modifiers := c.modifiers.insertMany ms }

/-- A class with one more field. -/
def addField (c : ClassModel) (f : Field) : ClassModel :=
  { c with fields := c.fields ++ [f] }

/-- A class with one more method. -/
def addMethod (c : ClassModel) (m : Method) : ClassModel :=
  { c with methods := c.methods ++ [m] }

/-- The documentation text, if there is one to show. -/
def shownDoc? (c : ClassModel) : Option String :=
  c.doc.filter (!·.isEmpty)

end ClassModel

end Stencil.Java
