import Stencil.Java.ClassModel.Build
import Stencil.Java.ClassModel.Layout
import Stencil.Proofs.Java.Scanning
import Stencil.Proofs.Layout.Rows
import Stencil.Proofs.Success

/-!
# The text of a built class

A class that was built from a template is written as the template spells it: every type is read and
written back unchanged, so its declarations are those that are joined straight from the template.
`text_of_buildClass` gives the whole text from the template, and `spelt_of_buildClass` says that
every name and type in it is a token.
-/

namespace Stencil.Java

open Outline

/-! ### What building checks -/

theorem fault?_of_checkName {artifact name : String} {role : NameRole}
    (h : checkName artifact role name = .ok ()) : fault? name = none := by
  unfold checkName at h
  split at h
  · contradiction
  · next hnone => exact hnone

theorem isToken_of_checkName {artifact name : String} {role : NameRole}
    (h : checkName artifact role name = .ok ()) : IsToken name.toList :=
  isToken_of_fault? (fault?_of_checkName h)

theorem isToken_of_checkPackage {artifact package : String}
    (h : checkPackage artifact package = .ok ()) : package = "" ∨ IsToken package.toList := by
  unfold checkPackage at h
  split at h
  · next hempty => exact Or.inl (String.isEmpty_iff.1 hempty)
  · split at h
    · contradiction
    · next hnone => exact Or.inr (isToken_of_qualifiedFault? hnone)

theorem readValueType_of_valueType {artifact spelling : String} {t : TypeRef}
    (h : valueType artifact spelling = .ok t) : readValueType spelling = .ok t := by
  unfold valueType at h
  cases hr : readValueType spelling with
  | error e => rw [hr] at h; contradiction
  | ok t' => rw [hr] at h; exact congrArg Except.ok (Except.ok.inj h)

/-- A value type is the one that its spelling is read as, whatever is innermost. -/
theorem parse?_of_readValueType {spelling : String} {t : TypeRef}
    (h : readValueType spelling = .ok t) : TypeRef.parse? spelling = some t := by
  unfold readValueType at h
  split at h
  · contradiction
  next t' hparse =>
  rw [hparse]
  -- what is innermost decides whether the type is refused, and not what it is
  split at h
  · contradiction
  · split at h
    · contradiction
    · rw [Except.ok.inj h]
  · rw [Except.ok.inj h]

/-- A value type is written as it was spelt, in a token. -/
theorem text_of_valueType {artifact spelling : String} {t : TypeRef}
    (h : valueType artifact spelling = .ok t) :
    t.text = spelling ∧ IsToken spelling.toList := by
  have hread := readValueType_of_valueType h
  have hparse := parse?_of_readValueType hread
  have htext : t.text = spelling := TypeRef.text_of_parse? hparse
  -- a class name that is innermost was checked
  have htoken : ∀ name, t.innermost = .named name → IsToken name.toList := by
    intro name hname
    unfold readValueType at hread
    simp only [hparse, hname] at hread
    split at hread
    · contradiction
    · next hfault => exact isToken_of_qualifiedFault? hfault
  refine ⟨htext, ?_⟩
  rw [← htext]
  exact TypeRef.isToken_text htoken

theorem text_of_resultType {artifact spelling : String} {t : TypeRef}
    (h : resultType artifact spelling = .ok t) :
    t.text = spelling ∧ IsToken spelling.toList := by
  unfold resultType at h
  split at h
  · next hvoid =>
    cases h
    subst hvoid
    exact ⟨rfl, by decide⟩
  · exact text_of_valueType h

/-! ### Declarations of a template -/

/-- A field of a template, up to its semicolon. -/
def fieldHead (f : FieldTemplate) : String :=
  declaration (.ofList f.modifiers) f.type f.name

/-- A method of a template, up to its parameters. -/
def methodHead (m : MethodTemplate) : String :=
  declaration (.ofList m.modifiers) m.returns m.name

/-- The members of a template as fragments. -/
def memberFragments (t : ClassTemplate) : List Fragment :=
  t.fields.map (fun f => .line (fieldHead f ++ ";")) ++
    t.methods.map fun m => .braced (methodHead m ++ "()" ++ " \x7b") (m.body.map .line)

theorem declaration_of_fieldOf {artifact : String} (f : FieldTemplate) (f' : Field)
    (h : fieldOf artifact f = .ok f') :
    f'.declaration = fieldHead f ++ ";" ∧ IsToken f.type.toList ∧ IsToken f.name.toList := by
  obtain ⟨⟨⟩, hname, h⟩ := bind_ok h
  obtain ⟨type, htype, h⟩ := bind_ok h
  cases h
  -- the type is written as it was spelt, and the name and the modifiers are those of the template
  obtain ⟨htext, htoken⟩ := text_of_valueType htype
  refine ⟨?_, htoken, isToken_of_checkName hname⟩
  unfold Field.declaration fieldHead declaration
  rw [htext]

theorem fragment_of_methodOf {artifact : String} (m : MethodTemplate) (m' : Method)
    (h : methodOf artifact m = .ok m') :
    m'.fragment = .braced (methodHead m ++ "()" ++ " \x7b") (m.body.map .line) ∧
      IsToken m.returns.toList ∧ IsToken m.name.toList := by
  obtain ⟨⟨⟩, hname, h⟩ := bind_ok h
  obtain ⟨returns, hreturns, h⟩ := bind_ok h
  cases h
  obtain ⟨htext, htoken⟩ := text_of_resultType hreturns
  refine ⟨?_, htoken, isToken_of_checkName hname⟩
  unfold Method.fragment Method.signature methodHead declaration
  rw [htext]

/-! ### The built class -/

/-- **A template whose names and types are tokens**, for a request whose package is one or the
unnamed package. -/
structure Spelt (t : ClassTemplate) (r : Request) : Prop where
  package : r.package = "" ∨ IsToken r.package.toList
  className : IsToken r.className.toList
  fields : ∀ f ∈ t.fields, IsToken f.type.toList ∧ IsToken f.name.toList
  methods : ∀ m ∈ t.methods, IsToken m.returns.toList ∧ IsToken m.name.toList

/-- The checks that a built class has passed, and what it consists of. -/
theorem buildClass_ok {t : ClassTemplate} {r : Request} {c : ClassModel}
    (h : buildClass t r = .ok c) :
    checkPackage r.qualifiedName r.package = .ok () ∧
      checkName r.qualifiedName .className r.className = .ok () ∧
      ∃ fields methods, t.fields.mapM (fieldOf r.qualifiedName) = .ok fields ∧
        t.methods.mapM (methodOf r.qualifiedName) = .ok methods ∧
        c = ⟨r.package, r.className, .ofList t.modifiers, t.shownDoc?, fields, methods⟩ := by
  -- the steps are taken one by one, and none of them has failed
  obtain ⟨⟨⟩, hpackage, h⟩ := bind_ok h
  obtain ⟨⟨⟩, hname, h⟩ := bind_ok h
  obtain ⟨fields, hfields, h⟩ := bind_ok h
  obtain ⟨methods, hmethods, h⟩ := bind_ok h
  cases h
  exact ⟨hpackage, hname, fields, methods, hfields, hmethods, rfl⟩

/-- Everything in a built class is spelt in tokens. -/
theorem spelt_of_buildClass {t : ClassTemplate} {r : Request} {c : ClassModel}
    (h : buildClass t r = .ok c) : Spelt t r := by
  obtain ⟨hpackage, hname, fields, methods, hfields, hmethods, -⟩ := buildClass_ok h
  refine ⟨isToken_of_checkPackage hpackage, isToken_of_checkName hname, ?_, ?_⟩
  · intro f hf
    obtain ⟨f', hf'⟩ := forall_of_mapM_ok hfields f hf
    exact (declaration_of_fieldOf f f' hf').2
  · intro m hm
    obtain ⟨m', hm'⟩ := forall_of_mapM_ok hmethods m hm
    exact (fragment_of_methodOf m m' hm').2

/-! ### Its text -/

/-- The package declaration of a page, with the blank line behind it. -/
def packageChars (package : String) : List Char :=
  if package.isEmpty then [] else ("package " ++ package ++ ";").toList ++ ['\n', '\n']

/-- The documentation comment of a page. -/
def docPart (doc? : Option String) : List Char :=
  (doc?.map fun doc => docChars (Text.linesOf doc)).getD []

/-- The members of a class on a page, with the blank lines between them. -/
def memberChars (fragments : List Fragment) : List Char :=
  (renderRows "  " (Fragment.rowsAll 1 (fragments.intersperse .blank))).toList

/-- The class of a template on a page. -/
def classChars (t : ClassTemplate) (r : Request) : List Char :=
  ((ModifierSet.ofList t.modifiers).text ++ "class " ++ r.className ++ " \x7b").toList ++
    ('\n' :: (memberChars (memberFragments t) ++ ['\x7d', '\n']))

/-- A row of a page is a line behind its indentation. -/
theorem toList_render_text (unit : String) (level : Nat) (s : String) :
    ((Row.text level s).render unit).toList =
      (String.join (List.replicate level unit)).toList ++ (s.toList ++ ['\n']) := by
  change (String.join (List.replicate level unit) ++ s ++ "\n").toList = _
  rw [String.toList_append, String.toList_append, List.append_assoc]
  rfl

/-- A row at the edge of the page. -/
theorem toList_render_text_zero (unit s : String) :
    ((Row.text 0 s).render unit).toList = s.toList ++ ['\n'] := by
  rw [toList_render_text, List.replicate_zero, String.join_nil]
  rfl

theorem toList_docRows (lines : List String) :
    (renderRows "  " (Fragment.docRows 0 lines)).toList = docChars lines := by
  have hlines : (renderRows "  " (lines.map fun l => .text 0 (Page.docLine l))).toList =
      lines.flatMap fun l => (Page.docLine l).toList ++ ['\n'] := by
    induction lines with
    | nil => rfl
    | cons l lines ih =>
      rw [List.map_cons, renderRows_cons, String.toList_append, ih, toList_render_text_zero,
        List.flatMap_cons]
  unfold Fragment.docRows docChars
  rw [List.cons_append, renderRows_cons, renderRows_append, String.toList_append,
    String.toList_append, hlines, toList_render_text_zero, renderRows_cons, renderRows_nil,
    String.append_empty, toList_render_text_zero, List.append_assoc]
  rfl

/-- The documentation comment of a page, if there is one. -/
theorem toList_docPart (doc? : Option String) :
    (renderRows "  " (Fragment.rowsAll 0 (doc?.map Fragment.docOf).toList)).toList =
      docPart doc? := by
  cases doc? with
  | none => rfl
  | some doc =>
    rw [Option.map_some, Option.toList_some, Fragment.rowsAll_singleton]
    exact toList_docRows (Text.linesOf doc)

theorem toList_classRows (header : String) (members : List Fragment) :
    (renderRows "  " (Fragment.rowsAll 0 [.braced header (members.intersperse .blank)])).toList =
      header.toList ++ ('\n' :: (memberChars members ++ ['\x7d', '\n'])) := by
  unfold Fragment.braced memberChars
  rw [Fragment.rowsAll_singleton, Fragment.rows_block, renderRows_append, renderRows_cons,
    renderRows_cons, renderRows_nil, String.append_empty, String.toList_append,
    String.toList_append, toList_render_text_zero, toList_render_text_zero, List.append_assoc,
    List.append_assoc]
  rfl

/-- The text of a source file is that of the rows of its fragments. -/
theorem SourceFile.text_eq (f : SourceFile) :
    f.text = renderRows "  " (Fragment.rowsAll 0 f.fragments) := by
  unfold SourceFile.text
  rw [Page.emitAll_eq, Page.addRows_text, String.empty_append]
  rfl

/-- The text of a class model, part by part. -/
theorem ClassModel.toList_text (c : ClassModel) :
    c.text.toList = packageChars c.package ++ (docPart c.shownDoc? ++
      (c.header.toList ++ ('\n' :: (memberChars c.members ++ ['\x7d', '\n'])))) := by
  have hbody : (renderRows "  " (Fragment.rowsAll 0 c.fragments)).toList =
      docPart c.shownDoc? ++
        (c.header.toList ++ ('\n' :: (memberChars c.members ++ ['\x7d', '\n']))) := by
    unfold ClassModel.fragments
    rw [Fragment.rowsAll_append, renderRows_append, String.toList_append, toList_docPart,
      toList_classRows]
  unfold ClassModel.text ClassModel.sourceFile
  rw [SourceFile.text_eq]
  unfold SourceFile.fragments packageChars
  dsimp only
  -- a package adds a line and a blank one in front, and without one the page is the body
  split
  · exact hbody
  · rw [Fragment.rowsAll_cons, Fragment.rowsAll_cons, renderRows_append, renderRows_append,
      String.toList_append, String.toList_append, hbody, Fragment.rows_line, renderRows_cons,
      renderRows_nil, String.append_empty, toList_render_text_zero, List.append_assoc,
      List.append_assoc]
    rfl

/-- The documentation is filtered once by the template and once by the class. -/
theorem filter_shownDoc? (t : ClassTemplate) :
    t.shownDoc?.filter (!·.isEmpty) = t.shownDoc? := by
  unfold ClassTemplate.shownDoc?
  rw [Option.filter_filter]
  simp only [Bool.and_self]

/-- **A built class is written as its template spells it.** -/
theorem text_of_buildClass {t : ClassTemplate} {r : Request} {c : ClassModel}
    (h : buildClass t r = .ok c) :
    c.text.toList =
      packageChars r.package ++ (docPart t.shownDoc? ++ classChars t r) := by
  obtain ⟨-, -, fields, methods, hfields, hmethods, rfl⟩ := buildClass_ok h
  -- every member that was built is laid out as the template spells it
  have hmembers : fields.map (fun f => Fragment.line f.declaration) ++
      methods.map Method.fragment = memberFragments t := by
    have hfield : ∀ f f', fieldOf r.qualifiedName f = .ok f' →
        Fragment.line f'.declaration = Fragment.line (fieldHead f ++ ";") := by
      intro f f' hf
      rw [(declaration_of_fieldOf f f' hf).1]
    unfold memberFragments
    rw [map_of_mapM_ok hfield hfields,
      map_of_mapM_ok (fun m m' hm => (fragment_of_methodOf m m' hm).1) hmethods]
  rw [ClassModel.toList_text]
  unfold ClassModel.members ClassModel.shownDoc? ClassModel.header classChars
  dsimp only
  rw [hmembers, filter_shownDoc?]

end Stencil.Java
