import Stencil.Declaration
import Stencil.Strategy
import Stencil.Template
import Stencil.Total

/-!
# Manifests and feeds

A manifest says what to generate: the marker to look for, the strategy of emission, and the
template of the class. A feed lists the rounds of declarations to look through.
-/

namespace Stencil

/-- What to look for, and how to emit. -/
structure Generator where
  /-- The qualified name of the marker. -/
  marker : String
  strategy : Strategy := .default
deriving Repr, DecidableEq

/-- What to generate. -/
structure Manifest where
  generator : Generator
  template : ClassTemplate := .default
deriving Repr, DecidableEq

/-- Rounds of discovery, in order. -/
structure Feed where
  rounds : List Round := []
deriving Repr, DecidableEq

/-- The number of declarations in all rounds of a feed. -/
def Feed.declarationCount (f : Feed) : Nat :=
  total (·.declarations.length) f.rounds

end Stencil
