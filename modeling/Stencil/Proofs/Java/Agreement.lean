import Stencil.Emission
import Stencil.Proofs.Java.TemplateText

/-!
# The strategies declare the same class

A page and a raw text are laid out differently, but every part of either *declares* the same:
`Declares depth o u o'` says that a text `u` which stands at a depth, behind nothing but layout,
takes the outline `o` to `o'` and leaves nothing but layout to be read with what follows. It
composes like `Passes`, and layout can be put between any two texts that declare something. So the
two source texts are compared part by part, and neither scan has to be followed through.

* `declares_package`, `declares_comment`, `declares_field`, `declares_method` — the parts, for any
  layout;
* `declares_rawMembers` and `declares_memberChars` — the members of a template, one after the
  other in a raw text and with blank lines between them on a page;
* `read_of_parts` — a source text of such parts has the outline of its template;
* `Strategy.same_outline` — a template that the structured strategy renders is rendered by both
  strategies to texts with the outline of the template.
-/

namespace Stencil.Java

open Outline

/-! ### The outline of a template -/

/-- A field as a template declares it. -/
def fieldOutline (f : FieldTemplate) : MemberOutline :=
  ⟨keywords (.ofList f.modifiers), f.type, f.name, none⟩

/-- A method as a template declares it. It has parameters, but none are named. -/
def methodOutline (m : MethodTemplate) : MemberOutline :=
  ⟨keywords (.ofList m.modifiers), m.returns, m.name, some ""⟩

/-- **The outline of a template**, read off without any source text. -/
def Outline.ofTemplate (t : ClassTemplate) (r : Request) : Outline where
  package := if r.package.isEmpty then none else some r.package
  className := r.className
  classModifiers := keywords (.ofList t.modifiers)
  fields := t.fields.map fieldOutline
  methods := t.methods.map methodOutline

/-- A member of a template. -/
inductive Member where
  | field (f : FieldTemplate)
  | method (m : MethodTemplate)

namespace Member

/-- The members of a template, fields before methods. -/
def ofTemplate (t : ClassTemplate) : List Member :=
  t.fields.map .field ++ t.methods.map .method

/-- A member on a page. -/
def fragment : Member → Fragment
  | field f => .line (fieldHead f ++ ";")
  | method m => .braced (methodHead m ++ "()" ++ " \x7b") (m.body.map .line)

/-- A member in a raw text. -/
def rawText : Member → String
  | field f => RawText.fieldText f
  | method m => RawText.methodText m

/-- The outline with a member declared. -/
def addTo (o : Outline) : Member → Outline
  | field f => { o with fields := o.fields ++ [fieldOutline f] }
  | method m => { o with methods := o.methods ++ [methodOutline m] }

/-- **A member that can be read**: its type and its name are tokens, and its body is balanced and
opens no block comment. -/
def IsReadable : Member → Prop
  | field f => IsToken f.type.toList ∧ IsToken f.name.toList
  | method m => (IsToken m.returns.toList ∧ IsToken m.name.toList) ∧ IsBalanced m.body ∧
      ∀ line ∈ m.body, ¬ ['/', '*'] <:+: line.toList

theorem foldl_addTo_fields (o : Outline) (fs : List FieldTemplate) :
    (fs.map field).foldl addTo o = { o with fields := o.fields ++ fs.map fieldOutline } := by
  induction fs generalizing o with
  | nil => rw [List.map_nil, List.map_nil, List.append_nil, List.foldl_nil]
  | cons f fs ih =>
    rw [List.map_cons, List.foldl_cons, ih]
    change { o with fields := o.fields ++ [fieldOutline f] ++ fs.map fieldOutline } = _
    rw [List.append_assoc, List.singleton_append, List.map_cons]

theorem foldl_addTo_methods (o : Outline) (ms : List MethodTemplate) :
    (ms.map method).foldl addTo o = { o with methods := o.methods ++ ms.map methodOutline } := by
  induction ms generalizing o with
  | nil => rw [List.map_nil, List.map_nil, List.append_nil, List.foldl_nil]
  | cons m ms ih =>
    rw [List.map_cons, List.foldl_cons, ih]
    change { o with methods := o.methods ++ [methodOutline m] ++ ms.map methodOutline } = _
    rw [List.append_assoc, List.singleton_append, List.map_cons]

/-- What the members of a template declare. -/
theorem foldl_addTo (o : Outline) (t : ClassTemplate) :
    (ofTemplate t).foldl addTo o =
      { o with
        fields := o.fields ++ t.fields.map fieldOutline
        methods := o.methods ++ t.methods.map methodOutline } := by
  unfold ofTemplate
  rw [List.foldl_append, foldl_addTo_fields, foldl_addTo_methods]

theorem map_fragment_ofTemplate (t : ClassTemplate) :
    (ofTemplate t).map fragment = memberFragments t := by
  unfold ofTemplate memberFragments
  rw [List.map_append, List.map_map, List.map_map]
  rfl

/-- The members of a raw text, joined. -/
theorem flatMap_rawText_ofTemplate (t : ClassTemplate) :
    ((ofTemplate t).flatMap fun m => m.rawText.toList) =
      (String.join (t.fields.map RawText.fieldText)).toList ++
        (String.join (t.methods.map RawText.methodText)).toList := by
  unfold ofTemplate
  rw [List.flatMap_append, List.flatMap_map, List.flatMap_map, String.toList_join,
    String.toList_join, List.flatMap_map, List.flatMap_map]
  rfl

end Member

/-! ### Texts that declare -/

/-- **A text declares**: behind layout it takes one outline to another, and leaves layout. -/
def Declares (depth : Nat) (o : Outline) (u : List Char) (o' : Outline) : Prop :=
  ∀ ws, Text.Spaces ws → ∃ ws', Text.Spaces ws' ∧ Passes ⟨o, depth, ws⟩ u ⟨o', depth, ws'⟩

theorem Declares.refl (depth : Nat) (o : Outline) : Declares depth o [] o :=
  fun ws hws => ⟨ws, hws, Passes.refl _⟩

theorem Declares.append {depth : Nat} {o o' o'' : Outline} {u v : List Char}
    (hu : Declares depth o u o') (hv : Declares depth o' v o'') :
    Declares depth o (u ++ v) o'' := by
  intro ws hws
  obtain ⟨ws', hws', hpass⟩ := hu ws hws
  obtain ⟨ws'', hws'', hpass'⟩ := hv ws' hws'
  exact ⟨ws'', hws'', hpass.append hpass'⟩

/-- Layout declares nothing. -/
theorem declares_spaces {depth : Nat} (hd : depth ≤ 1) (o : Outline) {u : List Char}
    (hu : Text.Spaces u) : Declares depth o u o :=
  fun ws hws => ⟨u.reverse ++ ws, hu.reverse.append hws, passes_spaces hu o hd⟩

/-- The end of a line among the members declares nothing. -/
theorem declares_lineFeed (o : Outline) : Declares 1 o ['\n'] o :=
  declares_spaces (by decide) o Text.spaces_lineFeed

/-- A comment that leaves its line feed declares nothing. -/
theorem declares_comment (o : Outline) {u : List Char}
    (hstrip : ∀ rest, stripFrom .code (u ++ rest) = '\n' :: stripFrom .code rest) :
    Declares 0 o u o := by
  intro ws hws
  refine ⟨'\n' :: ws, hws.cons (by rfl), ?_⟩
  refine Passes.of_strip ['\n'] hstrip ?_
  exact foldlM_quiet (isQuiet_of_spaces Text.spaces_lineFeed) o (by decide) ws

/-- A package declaration, with any breaks behind it, declares the package. -/
theorem declares_package {package : String} (h : package = "" ∨ IsToken package.toList)
    {breaks : List Char} (hbreaks : Text.Spaces breaks) :
    Declares 0 {} (if package.isEmpty then [] else ("package " ++ package ++ ";").toList ++ breaks)
      { package := if package.isEmpty then none else some package } := by
  split
  · exact Declares.refl 0 _
  · next hne =>
    have htoken : IsToken package.toList :=
      h.resolve_left fun hempty => hne (String.isEmpty_iff.2 hempty)
    refine Declares.append ?_ (declares_spaces (by decide) _ hbreaks)
    exact fun ws hws => ⟨[], Text.Spaces.nil, passes_package htoken hws {}⟩

theorem declares_packageChars {package : String} (h : package = "" ∨ IsToken package.toList) :
    Declares 0 {} (packageChars package)
      { package := if package.isEmpty then none else some package } :=
  declares_package h (Text.spaces_lineFeed.cons (by rfl))

/-- A field declares itself. -/
theorem declares_field {f : FieldTemplate} (h : IsToken f.type.toList ∧ IsToken f.name.toList)
    (o : Outline) :
    Declares 1 o (fieldHead f ++ ";").toList { o with fields := o.fields ++ [fieldOutline f] } :=
  fun _ hws => ⟨[], Text.Spaces.nil, passes_field h.1 h.2 hws o⟩

/-- **A method declares itself**, however its body is laid out. -/
theorem declares_method {m : MethodTemplate} (h : (Member.method m).IsReadable)
    {gap indent closing : List Char} (hgap : Text.Spaces gap) (hindent : Text.Spaces indent)
    (hclosing : Text.Spaces closing) (o : Outline) :
    Declares 1 o
      ((methodHead m ++ "()" ++ " \x7b").toList ++
        (gap ++ (bodyChars indent m.body ++ (closing ++ ['\x7d']))))
      { o with methods := o.methods ++ [methodOutline m] } := by
  obtain ⟨⟨hreturns, hname⟩, hbalanced, hopen⟩ := h
  intro ws hws
  refine ⟨[], Text.Spaces.nil, ?_⟩
  -- the header opens the body, whose own braces are closed when the last one comes
  refine (passes_methodHeader hreturns hname hws o).append ?_
  refine (passes_bodySpaces _ 0 hgap).append ?_
  refine (passes_body _ hindent hopen hbalanced).append ?_
  refine (passes_bodySpaces _ 0 hclosing).append ?_
  exact Passes.single (by decide) (Scan.next_close _ 1 [])

/-- **A class declares its header and its members.** -/
theorem declares_class {ms : ModifierSet} {name : String} (hname : IsToken name.toList)
    {o o' : Outline} {members : List Char}
    (hmembers : Declares 1
      { o with classModifiers := o.classModifiers ++ keywords ms, className := name } members o') :
    Declares 0 o
      ((ms.text ++ "class " ++ name ++ " \x7b").toList ++
        ('\n' :: (members ++ ['\x7d', '\n']))) o' := by
  intro ws hws
  -- behind the header nothing is pending, and the brace that closes the class drops what is
  obtain ⟨ws', -, hpass⟩ := ((declares_lineFeed _).append hmembers) [] Text.Spaces.nil
  refine ⟨['\n'], Text.spaces_lineFeed, ?_⟩
  refine (passes_classHeader hname hws o).append ?_
  refine hpass.append ?_
  refine Passes.append (u := ['\x7d']) (Passes.single (by decide) (Scan.next_close o' 0 ws')) ?_
  exact passes_spaces Text.spaces_lineFeed o' (by decide)

/-! ### Members in a raw text -/

theorem RawText.toList_fieldText (f : FieldTemplate) :
    (RawText.fieldText f).toList = (fieldHead f ++ ";").toList ++ ['\n'] := by
  change (fieldHead f ++ ";\n").toList = _
  rw [String.toList_append, String.toList_append, List.append_assoc]
  rfl

/-- The statements of a raw method, as the lines of a body. -/
theorem RawText.toList_join_statements (body : List String) :
    (String.join (body.map fun statement => "  " ++ statement ++ "\n")).toList =
      bodyChars [' ', ' '] body := by
  unfold bodyChars
  rw [String.toList_join, List.flatMap_map]
  simp only [String.toList_append, List.append_assoc]
  rfl

/-- What stands before the body of a raw method: nothing if there is none. -/
def RawText.gap (body : List String) : List Char :=
  if body.isEmpty then [] else ['\n']

theorem RawText.spaces_gap (body : List String) : Text.Spaces (RawText.gap body) := by
  unfold RawText.gap
  split
  · exact Text.Spaces.nil
  · exact Text.spaces_lineFeed

/-- A raw method is laid out around its body. -/
theorem RawText.toList_methodText (m : MethodTemplate) :
    (RawText.methodText m).toList =
      (methodHead m ++ "()" ++ " \x7b").toList ++
        (RawText.gap m.body ++ (bodyChars [' ', ' '] m.body ++ ([] ++ ['\x7d']))) ++ ['\n'] := by
  unfold RawText.methodText RawText.gap
  -- with statements, a line feed stands behind the brace, and without them nothing does
  cases m.body with
  | nil =>
    change (methodHead m ++ "()" ++ " \x7b\x7d\n").toList = _
    simp only [String.toList_append, List.append_assoc]
    rfl
  | cons line rest =>
    change (methodHead m ++ "()" ++ " \x7b\n" ++ String.join _ ++ "\x7d\n").toList = _
    rw [String.toList_append, String.toList_append, RawText.toList_join_statements]
    simp only [String.toList_append, List.append_assoc]
    rfl

theorem declares_rawText {m : Member} (h : m.IsReadable) (o : Outline) :
    Declares 1 o m.rawText.toList (m.addTo o) := by
  cases m with
  | field f =>
    change Declares 1 o (RawText.fieldText f).toList _
    rw [RawText.toList_fieldText]
    exact (declares_field h o).append (declares_lineFeed _)
  | method m =>
    -- the statements are indented by two blanks, whatever is in them
    have hindent : Text.Spaces [' ', ' '] := Text.spaces_replicate 2
    change Declares 1 o (RawText.methodText m).toList _
    rw [RawText.toList_methodText]
    refine Declares.append ?_ (declares_lineFeed _)
    exact declares_method h (RawText.spaces_gap m.body) hindent Text.Spaces.nil o

/-- The members of a raw text follow each other. -/
theorem declares_rawMembers {ms : List Member} (h : ∀ m ∈ ms, m.IsReadable) (o : Outline) :
    Declares 1 o (ms.flatMap fun m => m.rawText.toList) (ms.foldl Member.addTo o) := by
  induction ms generalizing o with
  | nil => exact Declares.refl 1 o
  | cons m ms ih =>
    rw [List.flatMap_cons, List.foldl_cons]
    exact (declares_rawText (h m List.mem_cons_self) o).append
      (ih (fun m' hm' => h m' (List.mem_cons_of_mem _ hm')) _)

/-! ### Members on a page -/

/-- A fragment among the members of a page. -/
def fragmentChars (f : Fragment) : List Char :=
  (renderRows "  " (f.rows 1)).toList

theorem fragmentChars_field (f : FieldTemplate) :
    fragmentChars (Member.field f).fragment =
      [' ', ' '] ++ ((fieldHead f ++ ";").toList ++ ['\n']) := by
  unfold fragmentChars Member.fragment
  rw [Fragment.rows_line, renderRows_cons, renderRows_nil, String.append_empty, toList_render_text]
  rfl

/-- The statements of a method on a page, as the lines of a body. -/
theorem toList_rowsAll_statements (body : List String) :
    (renderRows "  " (Fragment.rowsAll 2 (body.map .line))).toList =
      bodyChars [' ', ' ', ' ', ' '] body := by
  rw [Fragment.rowsAll_lines]
  induction body with
  | nil => rfl
  | cons line rest ih =>
    rw [List.map_cons, renderRows_cons, String.toList_append, ih, toList_render_text]
    rfl

theorem fragmentChars_method (m : MethodTemplate) :
    fragmentChars (Member.method m).fragment =
      [' ', ' '] ++ ((methodHead m ++ "()" ++ " \x7b").toList ++
        (['\n'] ++ (bodyChars [' ', ' ', ' ', ' '] m.body ++ ([' ', ' '] ++ ['\x7d']))) ++
          ['\n']) := by
  unfold fragmentChars Member.fragment Fragment.braced
  rw [Fragment.rows_block, List.cons_append, renderRows_cons, renderRows_append, renderRows_cons,
    renderRows_nil, String.append_empty, String.toList_append, String.toList_append,
    toList_rowsAll_statements, toList_render_text, toList_render_text]
  simp only [List.append_assoc]
  rfl

theorem declares_fragment {m : Member} (h : m.IsReadable) (o : Outline) :
    Declares 1 o (fragmentChars m.fragment) (m.addTo o) := by
  -- a member of a page is indented by two blanks, and the statements of a method by four
  have hindent : Text.Spaces [' ', ' '] := Text.spaces_replicate 2
  cases m with
  | field f =>
    rw [fragmentChars_field]
    refine (declares_spaces (by decide) o hindent).append ?_
    exact (declares_field h o).append (declares_lineFeed _)
  | method m =>
    have hdeeper : Text.Spaces [' ', ' ', ' ', ' '] := Text.spaces_replicate 4
    rw [fragmentChars_method]
    refine (declares_spaces (by decide) o hindent).append ?_
    exact (declares_method h Text.spaces_lineFeed hdeeper hindent o).append (declares_lineFeed _)

theorem memberChars_singleton (f : Fragment) : memberChars [f] = fragmentChars f := by
  unfold memberChars fragmentChars
  exact congrArg (fun rows => (renderRows "  " rows).toList) (List.append_nil _)

/-- There is a blank line before the next member. -/
theorem memberChars_cons_cons (f next : Fragment) (others : List Fragment) :
    memberChars (f :: next :: others) =
      fragmentChars f ++ (['\n'] ++ memberChars (next :: others)) := by
  unfold memberChars fragmentChars
  rw [List.intersperse_cons_cons, Fragment.rowsAll_cons, Fragment.rowsAll_cons, renderRows_append,
    renderRows_append, String.toList_append, String.toList_append]
  rfl

/-- The members of a page follow each other with blank lines between them. -/
theorem declares_memberChars {ms : List Member} (h : ∀ m ∈ ms, m.IsReadable) (o : Outline) :
    Declares 1 o (memberChars (ms.map Member.fragment)) (ms.foldl Member.addTo o) := by
  induction ms generalizing o with
  | nil => exact Declares.refl 1 o
  | cons m ms ih =>
    have hm := declares_fragment (h m List.mem_cons_self) o
    have hrest := ih (fun m' hm' => h m' (List.mem_cons_of_mem _ hm')) (m.addTo o)
    cases ms with
    | nil =>
      rw [List.map_singleton, memberChars_singleton]
      exact hm
    | cons next others =>
      -- the blank line before the next member is layout
      rw [List.map_cons, List.map_cons, memberChars_cons_cons]
      exact hm.append ((declares_lineFeed _).append hrest)

/-! ### Source texts -/

/-- **A source text has the outline of its template** if its parts declare what the template
does. -/
theorem read_of_parts {t : ClassTemplate} {r : Request} {source : String}
    {package doc members : List Char} (hname : IsToken r.className.toList)
    (hchars : source.toList = package ++ (doc ++
      (((ModifierSet.ofList t.modifiers).text ++ "class " ++ r.className ++ " \x7b").toList ++
        ('\n' :: (members ++ ['\x7d', '\n'])))))
    (hpackage : Declares 0 {} package
      { package := if r.package.isEmpty then none else some r.package })
    (hdoc : ∀ o, Declares 0 o doc o)
    (hmembers : ∀ o, Declares 1 o members ((Member.ofTemplate t).foldl Member.addTo o)) :
    Outline.read source = .ok (Outline.ofTemplate t r) := by
  have hsource : Declares 0 {} source.toList (Outline.ofTemplate t r) := by
    rw [hchars]
    refine hpackage.append ((hdoc _).append (declares_class hname ?_))
    -- what is declared before the members is the outline of the template without them
    have htemplate := hmembers { Outline.ofTemplate t r with fields := [], methods := [] }
    rw [Member.foldl_addTo] at htemplate
    exact htemplate
  obtain ⟨ws, -, hpass⟩ := hsource [] Text.Spaces.nil
  -- all braces are closed, and the class has a name, so the outline is complete
  have hnamed : ¬ (Outline.ofTemplate t r).className.isEmpty := fun hempty =>
    hname.ne_nil (congrArg String.toList (String.isEmpty_iff.1 hempty))
  rw [Passes.read hpass]
  unfold Scan.finish
  rw [if_neg (fun hopen => hopen rfl)]
  exact if_neg hnamed

/-- The text of a raw class, part by part. -/
theorem RawText.toList_text (t : ClassTemplate) (r : Request) :
    (RawText.text t r).toList =
      (if r.package.isEmpty then [] else ("package " ++ r.package ++ ";").toList ++ ['\n']) ++
        ((((t.shownDoc?.map RawText.docText).getD "").toList) ++
          (((ModifierSet.ofList t.modifiers).text ++ "class " ++ r.className ++ " \x7b").toList ++
            ('\n' :: (((Member.ofTemplate t).flatMap fun m => m.rawText.toList) ++
              ['\x7d', '\n'])))) := by
  -- without a package there is no line for it
  have hpackage : (RawText.packageText r.package).toList =
      if r.package.isEmpty then [] else ("package " ++ r.package ++ ";").toList ++ ['\n'] := by
    unfold RawText.packageText
    split
    · rfl
    · simp only [String.toList_append, List.append_assoc]
      rfl
  rw [Member.flatMap_rawText_ofTemplate, ← hpackage]
  unfold RawText.text RawText.modifiersText
  simp only [String.toList_append, List.append_assoc]
  rfl

/-- What the structured strategy renders is a built class. -/
theorem toList_content_of_render {t : ClassTemplate} {r : Request} {a : Artifact}
    (h : Strategy.structured.render t r = .ok a) :
    Spelt t r ∧ a.content.toList =
      packageChars r.package ++ (docPart t.shownDoc? ++ classChars t r) := by
  obtain ⟨c, hc, rfl⟩ := Strategy.exists_buildClass_of_render h
  exact ⟨spelt_of_buildClass hc, text_of_buildClass hc⟩

/-- A template that was built has members that can be read, if their bodies can. -/
theorem isReadable_of_spelt {t : ClassTemplate} {r : Request} (h : Spelt t r)
    (hbalanced : ∀ m ∈ t.methods, IsBalanced m.body)
    (hopen : ∀ m ∈ t.methods, ∀ line ∈ m.body, ¬ ['/', '*'] <:+: line.toList) :
    ∀ m ∈ Member.ofTemplate t, m.IsReadable := by
  intro member hmember
  rcases List.mem_append.1 hmember with hfield | hmethod
  · obtain ⟨f, hf, rfl⟩ := List.mem_map.1 hfield
    exact h.fields f hf
  · obtain ⟨m, hm, rfl⟩ := List.mem_map.1 hmethod
    exact ⟨h.methods m hm, hbalanced m hm, hopen m hm⟩

end Stencil.Java

namespace Stencil.Strategy

open Java Java.Outline

/-- **The strategies declare the same class.** Whatever the structured strategy renders, the other
one renders too, under the same name. If the documentation does not end its comment and the bodies
are balanced and open no comment, both texts have the outline of the template. -/
theorem same_outline {t : ClassTemplate} {r : Request} {a : Artifact}
    (h : structured.render t r = .ok a)
    (hdoc : ∀ doc, t.doc = some doc → ¬ ['*', '/'] <:+: doc.toList)
    (hopen : ∀ m ∈ t.methods, ∀ line ∈ m.body, ¬ ['/', '*'] <:+: line.toList)
    (hbalanced : ∀ m ∈ t.methods, IsBalanced m.body) :
    ∃ b, rawText.render t r = .ok b ∧
      Outline.read a.content = .ok (Outline.ofTemplate t r) ∧
      Outline.read b.content = .ok (Outline.ofTemplate t r) ∧
      a.name = r.qualifiedName ∧ b.name = r.qualifiedName := by
  obtain ⟨hspelt, hchars⟩ := toList_content_of_render h
  have hreadable := isReadable_of_spelt hspelt hbalanced hopen
  have hshown : ∀ doc, t.shownDoc? = some doc → ¬ ['*', '/'] <:+: doc.toList := fun doc hsome =>
    hdoc doc (Option.eq_some_of_filter_eq_some hsome)
  refine ⟨_, rfl, ?_, ?_, name_of_render h, rfl⟩
  · -- the page: blank lines, and a comment of lines
    refine read_of_parts hspelt.className hchars ?_ ?_ ?_
    · exact declares_packageChars hspelt.package
    · intro o
      unfold docPart
      cases hs : t.shownDoc? with
      | none => exact Declares.refl 0 o
      | some doc =>
        exact declares_comment o (stripFrom_docChars (not_infix_linesOf (hshown doc hs)))
    · intro o
      rw [← Member.map_fragment_ofTemplate]
      exact declares_memberChars hreadable o
  · -- the raw text: no layout that is not needed
    refine read_of_parts hspelt.className (RawText.toList_text t r) ?_ ?_ ?_
    · exact declares_package hspelt.package Text.spaces_lineFeed
    · intro o
      cases hs : t.shownDoc? with
      | none => exact Declares.refl 0 o
      | some doc => exact declares_comment o (stripFrom_docText (hshown doc hs))
    · exact declares_rawMembers hreadable

/-- A class with comments and braces in all places where they do no harm. -/
def commented : ClassTemplate where
  className := "Person"
  doc := some "A person.\n\x7b /* not code"
  modifiers := [.final, .publicAccess, .final]
  fields := [⟨"names", "java.lang.String[]", [.privateAccess]⟩]
  methods :=
    [{ name := "run", body := ["if (ready) \x7b // \x7d", "  go(); // \x7b", "\x7d"] },
      { name := "stop" }]

theorem same_outline_commented :
    ∃ a b, structured.render commented ⟨"com.example", "Person"⟩ = .ok a ∧
      rawText.render commented ⟨"com.example", "Person"⟩ = .ok b ∧
      Outline.read a.content = Outline.read b.content ∧
      Outline.read b.content = .ok (Outline.ofTemplate commented ⟨"com.example", "Person"⟩) := by
  obtain ⟨a, ha⟩ : ∃ a, structured.render commented ⟨"com.example", "Person"⟩ = .ok a :=
    exists_of_isOk (by decide +kernel)
  have hdoc : ∀ doc, commented.doc = some doc → ¬ ['*', '/'] <:+: doc.toList := by
    intro doc hsome
    cases hsome
    decide +kernel
  -- no body of the template opens a brace that it leaves open
  have hbalanced : ∀ m ∈ commented.methods, IsBalanced m.body := by
    unfold IsBalanced
    decide +kernel
  obtain ⟨b, hb, hreada, hreadb, -⟩ := same_outline ha hdoc (by decide +kernel) hbalanced
  exact ⟨a, b, ha, hb, hreada.trans hreadb.symm, hreadb⟩

end Stencil.Strategy
