/-!
# Marked declarations

What the host toolchain reports: declarations that carry a marker, in rounds of discovery.
-/

namespace Stencil

/-- A declaration of the host program that carries a marker. -/
structure Declaration where
  /-- The qualified name of the marker. -/
  marker : String
  /-- The package of the declaration; empty for the unnamed one. -/
  package : String := ""
  /-- The simple name of what was declared, for messages. -/
  element : Option String := none
deriving Repr, DecidableEq

/-- One batch of discovery. -/
structure Round where
  declarations : List Declaration := []
deriving Repr, DecidableEq

/-- A name in a package: the package, a dot and the name, or in the unnamed package the name
alone. -/
def qualifiedName (package name : String) : String :=
  if package.isEmpty then name else package ++ "." ++ name

@[simp] theorem qualifiedName_unnamed (name : String) : qualifiedName "" name = name := rfl

/-- How messages call a declaration: by its element's qualified name, or by its package if the
element is not known. -/
def Declaration.displayName (d : Declaration) : String :=
  match d.element with
  | some element => qualifiedName d.package element
  | none => if d.package.isEmpty then "<unnamed package>" else d.package

end Stencil
