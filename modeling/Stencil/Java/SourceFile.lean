import Stencil.Layout

/-!
# Java source files

A source file is a package declaration, which the unnamed package goes without, and the fragments
below it.
-/

namespace Stencil.Java

/-- A source file before layout. -/
structure SourceFile where
  package : String
  body : List Fragment
deriving Repr

namespace SourceFile

/-- The fragments of a file: the package declaration and a blank line, then the body. -/
def fragments (f : SourceFile) : List Fragment :=
  if f.package.isEmpty then f.body
  else .line ("package " ++ f.package ++ ";") :: .blank :: f.body

/-- The text of a file. -/
def text (f : SourceFile) : String :=
  (({ indent := .narrow } : Page).emitAll f.fragments).text

end SourceFile

end Stencil.Java
