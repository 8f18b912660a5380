import Stencil.Manifest
import Stencil.Text.Space
import Stencil.Text.Span

/-!
# Problems of manifests

A manifest that is well-formed may still make no sense: it looks for a marker that cannot be one,
or its class has no name or two members of one kind under one name. `Manifest.problem?` finds the
first such problem in the manifest itself. `Problem.labels` looks for the places that a problem
speaks of in the text that the manifest was read from.
-/

namespace Stencil

/-- The kinds of members of a class. -/
inductive MemberKind where
  | field
  | method
deriving Repr, DecidableEq

/-- The word for a kind of member. -/
def MemberKind.text : MemberKind → String
  | .field => "field"
  | .method => "method"

/-- Why a manifest is rejected. -/
inductive Problem where
  | emptyMarker
  | spacedMarker (marker : String)
  | emptyClassName
  | duplicate (kind : MemberKind) (name : String)
deriving Repr, DecidableEq

/-- The first of some names that equals an earlier one. The names in `seen` stand before all. -/
def firstRepeat? (seen : List String) : List String → Option String
  | [] => none
  | name :: rest => if name ∈ seen then some name else firstRepeat? (name :: seen) rest

/-- Whether a text is empty or nothing but white space. -/
def isBlankText (s : String) : Bool :=
  s.toList.all Text.isSpace

/-- The first problem of a manifest. -/
def Manifest.problem? (m : Manifest) : Option Problem :=
  let marker := m.generator.marker
  if isBlankText marker then some .emptyMarker
  else if marker.toList.any Text.isSpace then some (.spacedMarker marker)
  else if isBlankText m.template.className then some .emptyClassName
  else
    (firstRepeat? [] (m.template.fields.map (·.name))).map (.duplicate .field) <|>
      (firstRepeat? [] (m.template.methods.map (·.name))).map (.duplicate .method)

/-- A place in a text, and what is said of it. -/
structure Label where
  text : Option String
  span : Text.Span
deriving Repr, DecidableEq

namespace Problem

/-- The problem in words. -/
def message : Problem → String
  | emptyMarker => "generator.marker must not be empty"
  | spacedMarker marker => s!"marker '{marker}' must not contain whitespace"
  | emptyClassName => "template.class_name must not be empty"
  | duplicate kind name => s!"duplicate {kind.text} '{name}' in template"

/-- What to do about the problem. -/
def help? : Problem → Option String
  | duplicate kind _ => some s!"every {kind.text} of the generated class needs a distinct name"
  | _ => none

/-- The identifier of the sort of problem. -/
def code : Problem → String
  | duplicate _ _ => "etch::duplicate_member"
  | _ => "etch::invalid_config"

/-- The places in a text that the problem speaks of. A repeated name is told with two places; they
are one if the text has no second one, and the beginning of the text if it has none. -/
def labels (text : String) : Problem → List Label
  | emptyMarker => ((Text.keySpan? text "marker").map (⟨none, ·⟩)).toList
  | spacedMarker marker => ((Text.quotedSpans text marker).head?.map (⟨none, ·⟩)).toList
  | emptyClassName => ((Text.keySpan? text "class_name").map (⟨none, ·⟩)).toList
  | duplicate kind name =>
    let spans := Text.quotedSpans text name
    let first := spans.head?.getD ⟨0, 0⟩
    let again := spans[1]?.getD first
    [⟨some s!"first {kind.text}", first⟩, ⟨some "same name again", again⟩]

end Problem

end Stencil
