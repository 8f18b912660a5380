import Stencil.Declaration

/-!
# Requests and artifacts

A request asks for a class of a given name in a given package; an artifact is the source text that
answers it, under the qualified name of the class.
-/

namespace Stencil

/-- What is asked for: a class in a package. -/
structure Request where
  package : String
  className : String
deriving Repr, DecidableEq

/-- The name under which the answer to a request is published. -/
def Request.qualifiedName (r : Request) : String :=
  Stencil.qualifiedName r.package r.className

/-- A generated source text and its qualified name. -/
structure Artifact where
  name : String
  content : String
deriving Repr, DecidableEq

/-- The artifact that answers a request with a text. -/
def Request.artifact (r : Request) (content : String) : Artifact :=
  ⟨r.qualifiedName, content⟩

end Stencil
