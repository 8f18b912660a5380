import Stencil.Java.ClassModel
import Stencil.Java.SourceFile

/-!
# The source text of a class model

A class is a documentation comment, if it has a text to show, and a block of its members, fields
before methods and a blank line between any two of them. A method is a block of its statements.
-/

namespace Stencil.Java

/-- The declaration of a field. -/
def Field.declaration (f : Field) : String :=
  f.modifiers.text ++ f.type.text ++ " " ++ f.name ++ ";"

/-- The declaration of a method up to its parameters. -/
def Method.signature (m : Method) : String :=
  m.modifiers.text ++ m.returns.text ++ " " ++ m.name ++ "()"

/-- A method as a block of its statements. -/
def Method.fragment (m : Method) : Fragment :=
  .braced (m.signature ++ " \x7b") (m.body.map .line)

namespace ClassModel

/-- The members of a class, one fragment each. -/
def members (c : ClassModel) : List Fragment :=
  c.fields.map (fun f => .line f.declaration) ++ c.methods.map Method.fragment

/-- The line that opens a class. -/
def header (c : ClassModel) : String :=
  c.modifiers.text ++ "class " ++ c.name ++ " \x7b"

/-- The fragments of a class: its comment and its block. -/
def fragments (c : ClassModel) : List Fragment :=
  (c.shownDoc?.map Fragment.docOf).toList ++
    [.braced c.header (c.members.intersperse .blank)]

/-- The source file of a class. -/
def sourceFile (c : ClassModel) : SourceFile :=
  ⟨c.package, c.fragments⟩

/-- The source text of a class. -/
def text (c : ClassModel) : String :=
  c.sourceFile.text

end ClassModel

end Stencil.Java
