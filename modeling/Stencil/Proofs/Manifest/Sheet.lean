import Mathlib.Data.List.Basic
import Stencil.Command.Starter
import Stencil.Manifest.Document
import Stencil.Proofs.Config.PlainSections

/-!
# Manifests as they are laid out

A manifest is laid out as its starter file is: the generator section, the template, then a section
for each field and one for each method, with an empty line before each section but the first. Below
each header there are plain lines (`Sheet`).

The text of such a manifest is made of rows (`Sheet.text_toList`). A row tells which kind of member
it belongs to, and so which names it gives: the names that rows give to members of a kind are, in
their order, those that the lines of these members give (`Sheet.filterMap_rows`).
-/

namespace Stencil

open Config Config.Toml

/-- The key under which a template has its members of a kind. -/
def MemberKind.key : MemberKind → BareKey
  | .field => .mk "fields"
  | .method => .mk "methods"

/-- **A manifest as it is laid out**: the lines of the generator section, those of the template, and
then those of each field and of each method. -/
structure Sheet where
  generator : List PlainLine
  template : List PlainLine
  fields : List (List PlainLine)
  methods : List (List PlainLine)

namespace Sheet

/-- The lines of each member of a kind. -/
def members (s : Sheet) : MemberKind → List (List PlainLine)
  | .field => s.fields
  | .method => s.methods

/-- The header of the generator section. -/
def generatorHeading : Heading :=
  ⟨none, .mk "generator", false⟩

/-- The key of the template. -/
def templateKey : BareKey :=
  .mk "template"

/-- The header of the template. -/
def templateHeading : Heading :=
  ⟨none, templateKey, false⟩

/-- The header of a member. -/
def memberHeading (kind : MemberKind) : Heading :=
  ⟨some templateKey, kind.key, true⟩

/-- The sections in their order. -/
def sections (s : Sheet) : List PlainSection :=
  ⟨generatorHeading, s.generator⟩ :: ⟨templateHeading, s.template⟩ ::
    (s.fields.map (⟨memberHeading .field, ·⟩) ++ s.methods.map (⟨memberHeading .method, ·⟩))

/-- The text of a manifest that is so laid out. -/
def text (s : Sheet) : String :=
  String.ofList (PlainSection.allWritten s.sections)

/-- The starter file is so laid out. -/
example : Starter.manifestText = text {
    generator := [
      .ofText (.mk "marker") (.mk Starter.marker),
      .ofText (.mk "strategy") (.mk "structured")]
    template := [
      .ofText (.mk "class_name") (.mk ClassTemplate.defaultClassName),
      .ofText (.mk "doc") (.mk ClassTemplate.defaultDoc),
      ⟨.mk "modifiers", .list [.mk "public", .mk "final"]⟩]
    fields := [[
      .ofText (.mk "name") (.mk "age"),
      .ofText (.mk "type") (.mk "int"),
      ⟨.mk "modifiers", .list [.mk "private"]⟩]]
    methods := [[
      .ofText (.mk "name") (.mk "getAge"),
      .ofText (.mk "returns") (.mk "void"),
      ⟨.mk "modifiers", .list [.mk "private"]⟩,
      ⟨.mk "body", .list []⟩]] } := by
  decide +kernel

/-! ### Names -/

/-- The name that a line gives to a member. -/
def lineName? (line : PlainLine) : Option String :=
  if line.key.text = "name" then
    match line.value with
    | .text v => some v.text
    | .list _ => none
  else none

/-- The names that the lines of members give. -/
def linesNames (parts : List (List PlainLine)) : List String :=
  parts.flatMap (·.filterMap lineName?)

/-! ### Rows -/

/-- A row of the text of a manifest. A line is told with the kind of member that it belongs to. -/
inductive Row where
  | blank
  | header (heading : Heading)
  | line (member : Option MemberKind) (line : PlainLine)

namespace Row

/-- How a row is written, without its end. -/
def written : Row → List Char
  | blank => []
  | header heading => heading.written
  | line _ l => l.written

/-- Everything that stands between two quotes in a row: the value of the line, or the items of its
list and the separators between them. -/
def quoted : Row → List String
  | blank | header _ => []
  | line _ l =>
    match l.value with
    | .text v => [v.text]
    | .list vs => (vs.map (·.text)).intersperse ", "

/-- The name that a row gives to a member of a kind. -/
def name? (kind : MemberKind) : Row → Option String
  | blank | header _ => none
  | line member l => if member = some kind then lineName? l else none

end Row

/-- Rows as they are written, each with its end. -/
def rowsWritten (rows : List Row) : List Char :=
  rows.flatMap (·.written ++ ['\n'])

theorem rowsWritten_append (before after : List Row) :
    rowsWritten (before ++ after) = rowsWritten before ++ rowsWritten after :=
  List.flatMap_append

theorem rowsWritten_cons (row : Row) (rows : List Row) :
    rowsWritten (row :: rows) = row.written ++ '\n' :: rowsWritten rows := by
  unfold rowsWritten
  rw [List.flatMap_cons, List.append_assoc, List.singleton_append]

/-- The rows of a section. -/
def sectionRows (member : Option MemberKind) (heading : Heading) (lines : List PlainLine) :
    List Row :=
  .header heading :: lines.map (.line member)

/-- The rows of the members of a kind, each behind an empty line. -/
def memberRows (s : Sheet) (kind : MemberKind) : List Row :=
  (s.members kind).flatMap fun lines => .blank :: sectionRows (some kind) (memberHeading kind) lines

/-- The rows of a manifest. -/
def rows (s : Sheet) : List Row :=
  sectionRows none generatorHeading s.generator ++
    .blank :: (sectionRows none templateHeading s.template ++
      (s.memberRows .field ++ s.memberRows .method))

theorem rowsWritten_sectionRows (member : Option MemberKind) (heading : Heading)
    (lines : List PlainLine) :
    rowsWritten (sectionRows member heading lines) = PlainSection.written ⟨heading, lines⟩ := by
  unfold rowsWritten sectionRows PlainSection.written
  rw [List.flatMap_cons, List.flatMap_map, List.append_assoc]
  rfl

theorem rowsWritten_memberRows (s : Sheet) (kind : MemberKind) :
    rowsWritten (s.memberRows kind) =
      ((s.members kind).map (⟨memberHeading kind, ·⟩)).flatMap
        ('\n' :: PlainSection.written ·) := by
  unfold memberRows
  rw [List.flatMap_map]
  -- a section and the empty line before it make the rows of one member
  induction s.members kind with
  | nil => rfl
  | cons lines parts ih =>
    rw [List.flatMap_cons, List.flatMap_cons, rowsWritten_append, ih, rowsWritten_cons,
      rowsWritten_sectionRows]
    rfl

/-- The text of a manifest is its rows, one after the other. -/
theorem text_toList (s : Sheet) : s.text.toList = rowsWritten s.rows := by
  unfold text sections rows
  rw [String.toList_ofList, PlainSection.allWritten_cons, List.flatMap_cons, List.flatMap_append,
    rowsWritten_append, rowsWritten_cons, rowsWritten_append, rowsWritten_append,
    rowsWritten_sectionRows, rowsWritten_sectionRows, rowsWritten_memberRows,
    rowsWritten_memberRows]
  rfl

theorem filterMap_sectionRows (kind : MemberKind) (member : Option MemberKind) (heading : Heading)
    (lines : List PlainLine) :
    (sectionRows member heading lines).filterMap (Row.name? kind) =
      if member = some kind then lines.filterMap lineName? else [] := by
  unfold sectionRows
  rw [List.filterMap_cons_none rfl, List.filterMap_map]
  split
  · next h => exact List.filterMap_congr fun l _ => if_pos h
  · next h => exact List.filterMap_eq_nil_iff.2 fun l _ => if_neg h

theorem filterMap_memberRows (s : Sheet) (kind other : MemberKind) :
    (s.memberRows other).filterMap (Row.name? kind) =
      if other = kind then linesNames (s.members kind) else [] := by
  unfold memberRows linesNames
  rw [List.filterMap_flatMap]
  split
  · -- rows of the kind give the names of its lines, and the header gives none
    next h =>
    subst h
    refine List.flatMap_congr fun lines _ => ?_
    rw [List.filterMap_cons_none rfl, filterMap_sectionRows, if_pos rfl]
  · -- rows of another kind give no names to this one
    next h =>
    refine List.flatMap_eq_nil_iff.2 fun lines _ => ?_
    rw [List.filterMap_cons_none rfl, filterMap_sectionRows, if_neg (mt Option.some.inj h)]

/-- The names that rows give to members of a kind are those that the lines of these members give. -/
theorem filterMap_rows (s : Sheet) (kind : MemberKind) :
    s.rows.filterMap (Row.name? kind) = linesNames (s.members kind) := by
  unfold rows
  rw [List.filterMap_append, List.filterMap_cons_none rfl, List.filterMap_append,
    List.filterMap_append, filterMap_sectionRows, filterMap_sectionRows, filterMap_memberRows,
    filterMap_memberRows]
  cases kind with
  | field => exact List.append_nil _
  | method => rfl

end Sheet

end Stencil
