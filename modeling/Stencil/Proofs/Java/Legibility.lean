import Stencil.Proofs.Java.TemplateText

/-!
# A page tells its class

Two built classes with the same source text are the same class, but for how the lines of their
documentation end (`text_eq_iff`). Nothing is asked of the statements of a method but that each is
one line: a statement may be a closing brace, or look like a field. What tells it from one is where
it begins, and so the proof goes from the outside in, and never looks into a body:

* the text of a page tells its lines (`map_line_inj`);
* the lines tell the fragments. A member ends where its lines do, whatever follows
  (`IsEntry.lines_append_inj`): a field is a line with a semicolon at its end, and a block is closed
  by the first line that is a brace behind one indentation, since the lines of a body begin with
  two. An induction over the members then takes them off one by one (`linesAll_entries_inj`);
* a declaration tells its words (`declaration_inj`), and the words of a built class tell its
  modifiers, types and names, since a type is read back from its spelling (`TypeRef.IsReadable`).
-/

namespace Stencil

open Fragment
open Text (append_cons_inj)

/-- A function that is injective on two lists tells them apart. -/
theorem map_inj_on {α β : Type} {f : α → β} {l l' : List α}
    (hf : ∀ a ∈ l, ∀ b ∈ l', f a = f b → a = b) (h : l.map f = l'.map f) : l = l' := by
  induction l generalizing l' with
  | nil => exact (List.map_eq_nil_iff.1 h.symm).symm
  | cons a l ih =>
    cases l' with
    | nil => exact List.map_eq_nil_iff.1 h
    | cons b l' =>
      rw [List.map_cons, List.map_cons, List.cons_eq_cons] at h
      obtain rfl := hf a List.mem_cons_self b List.mem_cons_self h.1
      rw [ih (fun c hc d hd => hf c (List.mem_cons_of_mem _ hc) d (List.mem_cons_of_mem _ hd)) h.2]

/-! ### Lines tell fragments -/

namespace Fragment

/-- The lines of fragments on a narrow page. -/
def linesAll (level : Nat) (fs : List Fragment) : List (List Char) :=
  (rowsAll level fs).map Row.line

theorem linesAll_cons (level : Nat) (f : Fragment) (rest : List Fragment) :
    linesAll level (f :: rest) = linesAll level [f] ++ linesAll level rest := by
  unfold linesAll
  rw [rowsAll_cons, List.map_append, rowsAll_singleton]

theorem linesAll_append (level : Nat) (fs gs : List Fragment) :
    linesAll level (fs ++ gs) = linesAll level fs ++ linesAll level gs := by
  unfold linesAll
  rw [rowsAll_append, List.map_append]

/-- **An entry of a class**: a line with a semicolon at its end, or a block of lines whose header
has a brace there. -/
inductive IsEntry : Fragment → Prop
  | line {text : String} (h : text.toList.getLast? = some ';') : IsEntry (.line text)
  | block {header : String} {body : List String} (h : header.toList.getLast? = some '\x7b') :
      IsEntry (.braced header (body.map .line))

/-- The line that closes a block in a class. -/
def closing : List Char :=
  [' ', ' ', '\x7d']

theorem linesAll_line (text : String) : linesAll 1 [.line text] = [' ' :: ' ' :: text.toList] := rfl

theorem linesAll_braced (header : String) (body : List String) :
    linesAll 1 [.braced header (body.map .line)] =
      (' ' :: ' ' :: header.toList) ::
        (body.map (fun text => List.replicate 4 ' ' ++ text.toList) ++ [closing]) := by
  unfold linesAll braced
  rw [rowsAll_singleton, rows_block, rowsAll_lines, List.cons_append, List.map_cons,
    List.map_append, List.map_map]
  rfl

/-- No line of a body closes its block. -/
theorem closing_not_mem (body : List String) :
    closing ∉ body.map fun text => List.replicate 4 ' ' ++ text.toList := by
  intro hmem
  obtain ⟨text, -, htext⟩ := List.mem_map.1 hmem
  -- the third character is a blank in the one and a brace in the other
  have hthird := congrArg (·[2]?) htext
  exact absurd hthird (by simp [closing])

/-- **An entry ends where its lines do**, whatever follows. -/
theorem IsEntry.lines_append_inj {f g : Fragment} {u v : List (List Char)} (hf : f.IsEntry)
    (hg : g.IsEntry) (h : linesAll 1 [f] ++ u = linesAll 1 [g] ++ v) : f = g ∧ u = v := by
  have hfirst : ∀ s t : String, ' ' :: ' ' :: s.toList = ' ' :: ' ' :: t.toList → s = t :=
    fun s t hst => String.toList_inj.1 (List.cons_inj_right _ |>.1 (List.cons_inj_right _ |>.1 hst))
  cases hf with
  | @line text htext =>
    cases hg with
    | @line text' htext' =>
      rw [linesAll_line, linesAll_line, List.singleton_append, List.singleton_append,
        List.cons_eq_cons] at h
      rw [hfirst _ _ h.1]
      exact ⟨rfl, h.2⟩
    | @block header body hheader =>
      -- the first line would end with both a semicolon and a brace
      rw [linesAll_line, linesAll_braced, List.singleton_append, List.cons_append,
        List.cons_eq_cons] at h
      rw [hfirst _ _ h.1, hheader] at htext
      contradiction
  | @block header body hheader =>
    cases hg with
    | @line text htext =>
      rw [linesAll_line, linesAll_braced, List.singleton_append, List.cons_append,
        List.cons_eq_cons] at h
      rw [hfirst _ _ h.1, htext] at hheader
      contradiction
    -- two blocks: the braces that close them divide the lines at the same place
    | @block header' body' hheader' =>
      rw [linesAll_braced, linesAll_braced, List.cons_append, List.cons_append, List.append_assoc,
        List.append_assoc, List.cons_eq_cons] at h
      obtain ⟨hbody, hrest⟩ := append_cons_inj (closing_not_mem body) (closing_not_mem body') h.2
      have hsame : body = body' := by
        refine map_inj_on (fun s _ t _ hst => ?_) hbody
        exact String.toList_inj.1 (List.append_cancel_left hst)
      rw [hfirst _ _ h.1, hsame]
      exact ⟨rfl, hrest⟩

/-! ### Entries one after the other -/

/-- Blank lines stand before all but the first of some entries. -/
theorem linesAll_intersperse (f : Fragment) (rest : List Fragment) :
    linesAll 1 ((f :: rest).intersperse .blank) =
      linesAll 1 [f] ++ rest.flatMap fun g => [] :: linesAll 1 [g] := by
  induction rest generalizing f with
  | nil => rw [List.flatMap_nil, List.append_nil]; rfl
  | cons g rest ih =>
    rw [List.intersperse_cons_cons, linesAll_cons, linesAll_cons 1 .blank, ih, List.flatMap_cons]
    rfl

/-- An entry begins behind an indentation. -/
theorem IsEntry.exists_cons {f : Fragment} (h : f.IsEntry) :
    ∃ line rest, linesAll 1 [f] = (' ' :: line) :: rest := by
  cases h with
  | line => exact ⟨_, _, linesAll_line _⟩
  | block => exact ⟨_, _, linesAll_braced _ _⟩

/-- The lines of the entries behind the first one tell them, up to the brace that closes the
class. -/
theorem flatMap_entries_inj {fs gs : List Fragment} (hf : ∀ f ∈ fs, f.IsEntry)
    (hg : ∀ g ∈ gs, g.IsEntry)
    (h : (fs.flatMap fun f => [] :: linesAll 1 [f]) ++ [['\x7d']] =
      (gs.flatMap fun g => [] :: linesAll 1 [g]) ++ [['\x7d']]) : fs = gs := by
  -- the induction takes off one blank line and one entry on both sides
  induction fs generalizing gs with
  | nil =>
    cases gs with
    | nil => rfl
    -- the brace is no blank line, so both sides end together
    | cons g gs => exact absurd (List.cons_eq_cons.1 h).1 (List.cons_ne_nil _ _)
  | cons f fs ih =>
    cases gs with
    | nil => exact absurd (List.cons_eq_cons.1 h).1.symm (List.cons_ne_nil _ _)
    | cons g gs =>
      rw [List.forall_mem_cons] at hf hg
      rw [List.flatMap_cons, List.flatMap_cons, List.append_assoc, List.append_assoc] at h
      obtain ⟨rfl, hrest⟩ := hf.1.lines_append_inj hg.1 (List.cons_eq_cons.1 h).2
      rw [ih hf.2 hg.2 hrest]

/-- **The lines of entries tell the entries**, up to the brace that closes the class. -/
theorem linesAll_entries_inj {fs gs : List Fragment} (hf : ∀ f ∈ fs, f.IsEntry)
    (hg : ∀ g ∈ gs, g.IsEntry)
    (h : linesAll 1 (fs.intersperse .blank) ++ [['\x7d']] =
      linesAll 1 (gs.intersperse .blank) ++ [['\x7d']]) : fs = gs := by
  -- a class without entries goes on with the brace, any other one with an indentation
  have hempty : ∀ g gs, g.IsEntry → [['\x7d']] ≠
      linesAll 1 ((g :: gs).intersperse .blank) ++ [['\x7d']] := by
    intro g gs hg h
    obtain ⟨line, rest, hfirst⟩ := hg.exists_cons
    rw [linesAll_intersperse, hfirst, List.cons_append, List.cons_append] at h
    exact absurd (List.cons_eq_cons.1 h).1 (by simp)
  cases fs with
  | nil =>
    cases gs with
    | nil => rfl
    | cons g gs => exact absurd h (hempty g gs (hg g List.mem_cons_self))
  | cons f fs =>
    cases gs with
    | nil => exact absurd h.symm (hempty f fs (hf f List.mem_cons_self))
    | cons g gs =>
      rw [List.forall_mem_cons] at hf hg
      rw [linesAll_intersperse, linesAll_intersperse, List.append_assoc, List.append_assoc] at h
      obtain ⟨rfl, hrest⟩ := hf.1.lines_append_inj hg.1 h
      rw [flatMap_entries_inj hf.2 hg.2 hrest]

end Fragment

namespace Java

open Outline

/-! ### Declarations tell what they declare -/

/-- The modifiers of a set are told by their words. -/
theorem keywords_inj {ms ms' : ModifierSet} (h : keywords ms = keywords ms') : ms = ms' := by
  obtain ⟨l, hl⟩ := ms
  obtain ⟨l', hl'⟩ := ms'
  obtain rfl : l = l' := by
    refine map_inj_on (fun m _ m' _ hm => ?_) h
    have hword := congrArg Modifier.ofKeyword? hm
    rw [Modifier.ofKeyword?_keyword, Modifier.ofKeyword?_keyword] at hword
    exact Option.some.inj hword
  rfl

/-- **A declaration tells its modifiers, its type and its name.** -/
theorem declaration_inj {ms ms' : ModifierSet} {type type' name name' : String}
    (htype : IsToken type.toList) (hname : IsToken name.toList) (htype' : IsToken type'.toList)
    (hname' : IsToken name'.toList)
    (h : declaration ms type name = declaration ms' type' name') :
    ms = ms' ∧ type = type' ∧ name = name' := by
  have hwords := congrArg (fun s => (Text.words s.toList).map String.ofList) h
  rw [words_declaration htype hname, words_declaration htype' hname'] at hwords
  -- the last two words are the type and the name
  obtain ⟨hkeywords, hrest⟩ := List.append_inj' hwords rfl
  obtain ⟨htypes, hnames⟩ := List.cons_eq_cons.1 hrest
  exact ⟨keywords_inj hkeywords, htypes, (List.cons_eq_cons.1 hnames).1⟩

theorem lineFeed_not_mem_declaration {ms : ModifierSet} {type name : String}
    (htype : IsToken type.toList) (hname : IsToken name.toList) :
    '\n' ∉ (declaration ms type name).toList :=
  not_mem_declaration htype hname (by decide) (by decide)

/-- A type that is read back from how it is written, which is a token. -/
structure TypeRef.IsReadable (t : TypeRef) : Prop where
  isToken : IsToken t.text.toList
  parse?_text : TypeRef.parse? t.text = some t

/-- Types that are read back are told by how they are written. -/
theorem TypeRef.IsReadable.text_inj {t t' : TypeRef} (h : t.IsReadable) (h' : t'.IsReadable)
    (htext : t.text = t'.text) : t = t' := by
  have hparse := h.parse?_text
  rw [htext, h'.parse?_text] at hparse
  exact (Option.some.inj hparse).symm

theorem isReadable_of_valueType {artifact spelling : String} {t : TypeRef}
    (h : valueType artifact spelling = .ok t) : t.IsReadable := by
  have hparse := parse?_of_readValueType (readValueType_of_valueType h)
  obtain ⟨htext, htoken⟩ := text_of_valueType h
  rw [← htext] at hparse htoken
  exact ⟨htoken, hparse⟩

theorem isReadable_of_resultType {artifact spelling : String} {t : TypeRef}
    (h : resultType artifact spelling = .ok t) : t.IsReadable := by
  unfold resultType at h
  split at h
  · cases h
    exact ⟨by decide, by decide⟩
  · exact isReadable_of_valueType h

/-! ### Legible classes -/

/-- A field whose type is read back and whose name is a token. -/
structure Field.IsLegible (f : Field) : Prop where
  type : f.type.IsReadable
  name : IsToken f.name.toList

/-- A method whose type is read back, whose name is a token and whose statements are one line
each. -/
structure Method.IsLegible (m : Method) : Prop where
  returns : m.returns.IsReadable
  name : IsToken m.name.toList
  body : ∀ line ∈ m.body, '\n' ∉ line.toList

/-- **A class that its page tells**, but for the line endings of its documentation. -/
structure ClassModel.IsLegible (c : ClassModel) : Prop where
  package : c.package = "" ∨ IsToken c.package.toList
  name : IsToken c.name.toList
  doc : c.shownDoc? = c.doc
  fields : ∀ f ∈ c.fields, f.IsLegible
  methods : ∀ m ∈ c.methods, m.IsLegible

theorem Field.declaration_eq (f : Field) :
    f.declaration = Outline.declaration f.modifiers f.type.text f.name ++ ";" := rfl

theorem Method.fragment_eq (m : Method) :
    m.fragment = .braced (Outline.declaration m.modifiers m.returns.text m.name ++ "()" ++ " \x7b")
      (m.body.map .line) := rfl

theorem Field.IsLegible.declaration_inj {f g : Field} (hf : f.IsLegible) (hg : g.IsLegible)
    (h : f.declaration = g.declaration) : f = g := by
  obtain ⟨name, type, modifiers⟩ := f
  obtain ⟨name', type', modifiers'⟩ := g
  rw [declaration_eq, declaration_eq, String.append_left_inj] at h
  obtain ⟨hmodifiers, htype, hname⟩ :=
    Java.declaration_inj hf.type.isToken hf.name hg.type.isToken hg.name h
  cases hmodifiers
  cases hname
  cases hf.type.text_inj hg.type htype
  rfl

theorem Method.IsLegible.fragment_inj {m n : Method} (hm : m.IsLegible) (hn : n.IsLegible)
    (h : m.fragment = n.fragment) : m = n := by
  obtain ⟨name, returns, modifiers, body⟩ := m
  obtain ⟨name', returns', modifiers', body'⟩ := n
  rw [fragment_eq, fragment_eq] at h
  obtain ⟨hheader, hbody, -⟩ := Fragment.block.inj h
  -- both headers end in the same parentheses and brace, and are declarations before that
  rw [String.append_left_inj, String.append_left_inj] at hheader
  obtain ⟨hmodifiers, hreturns, hname⟩ :=
    Java.declaration_inj hm.returns.isToken hm.name hn.returns.isToken hn.name hheader
  cases hmodifiers
  cases hname
  cases hm.returns.text_inj hn.returns hreturns
  cases map_inj_on (fun _ _ _ _ => Fragment.line.inj) hbody
  rfl

namespace ClassModel

variable {c c' : ClassModel}

/-- The members of a class are entries. -/
theorem isEntry_of_mem_members (c : ClassModel) : ∀ f ∈ c.members, f.IsEntry := by
  intro f hf
  rcases List.mem_append.1 hf with hf | hf
  · obtain ⟨field, -, rfl⟩ := List.mem_map.1 hf
    refine .line ?_
    rw [Field.declaration_eq, String.toList_append]
    exact List.getLast?_concat
  · obtain ⟨method, -, rfl⟩ := List.mem_map.1 hf
    refine .block ?_
    rw [String.toList_append, List.getLast?_append]
    rfl

/-- The fragment that a field is. -/
def lineOf? : Fragment → Option String
  | .line text => some text
  | _ => none

theorem filterMap_members (c : ClassModel) :
    c.members.filterMap lineOf? = c.fields.map Field.declaration := by
  have hmethods : c.methods.filterMap (lineOf? ∘ Method.fragment) = [] :=
    List.filterMap_eq_nil_iff.2 fun _ _ => rfl
  unfold members
  rw [List.filterMap_append, List.filterMap_map, List.filterMap_map, hmethods, List.append_nil]
  exact congrFun List.filterMap_eq_map c.fields

/-- **The members of a class tell its fields and its methods.** -/
theorem IsLegible.members_inj (h : c.IsLegible) (h' : c'.IsLegible)
    (hmembers : c.members = c'.members) : c.fields = c'.fields ∧ c.methods = c'.methods := by
  have hfields : c.fields = c'.fields := by
    have hlines := congrArg (List.filterMap lineOf?) hmembers
    rw [filterMap_members, filterMap_members] at hlines
    exact map_inj_on (fun f hf g hg => (h.fields f hf).declaration_inj (h'.fields g hg)) hlines
  unfold members at hmembers
  rw [hfields] at hmembers
  have hmethods := List.append_cancel_left hmembers
  exact ⟨hfields,
    map_inj_on (fun m hm n hn => (h.methods m hm).fragment_inj (h'.methods n hn)) hmethods⟩

/-! ### The lines of a class -/

/-- The lines in front of a class: its package, if it is named. -/
def frontLines (package : String) : List (List Char) :=
  if package.isEmpty then [] else [("package " ++ package ++ ";").toList, []]

/-- The lines of a documentation comment. -/
def docLines : Option String → List (List Char)
  | none => []
  | some doc =>
    "/**".toList :: ((Text.linesOf doc).map (fun l => (Page.docLine l).toList) ++ [" */".toList])

theorem docLines_none : docLines none = [] := rfl

theorem docLines_some (doc : String) :
    docLines (some doc) = "/**".toList ::
      ((Text.linesOf doc).map (fun l => (Page.docLine l).toList) ++ [" */".toList]) := rfl

/-- **The lines of a class.** -/
def lines (c : ClassModel) : List (List Char) :=
  frontLines c.package ++ (docLines c.shownDoc? ++
    (c.header.toList :: (linesAll 1 (c.members.intersperse .blank) ++ [['\x7d']])))

theorem linesAll_sourceFile (c : ClassModel) : linesAll 0 c.sourceFile.fragments = c.lines := by
  have hclass : linesAll 0 [.braced c.header (c.members.intersperse .blank)] =
      c.header.toList :: (linesAll 1 (c.members.intersperse .blank) ++ [['\x7d']]) := by
    unfold linesAll Fragment.braced
    rw [rowsAll_singleton, rows_block, List.cons_append, List.map_cons, List.map_append]
    rfl
  -- the lines of the comment are those of the text between the two that enclose it
  have hdoc : linesAll 0 (c.shownDoc?.map Fragment.docOf).toList = docLines c.shownDoc? := by
    cases c.shownDoc? with
    | none => rfl
    | some doc =>
      rw [Option.map_some, Option.toList_some]
      unfold linesAll Fragment.docOf docLines
      rw [rowsAll_singleton, rows_doc, docRows, List.cons_append, List.map_cons, List.map_append,
        List.map_map]
      rfl
  unfold sourceFile SourceFile.fragments lines frontLines fragments
  dsimp only
  split
  · rw [linesAll_append, hdoc, hclass, List.nil_append]
  · rw [linesAll_cons, linesAll_cons 0 .blank, linesAll_append, hdoc, hclass]
    rfl

theorem lineFeed_not_mem_frontLines {package : String}
    (h : package = "" ∨ IsToken package.toList) : ∀ line ∈ frontLines package, '\n' ∉ line := by
  unfold frontLines
  split
  · exact fun line hline => absurd hline List.not_mem_nil
  · next hnamed =>
    -- a package that is named is a token
    have htoken := h.resolve_left fun hempty => hnamed (String.isEmpty_iff.2 hempty)
    rw [toList_packageLine]
    refine List.forall_mem_cons.2 ⟨?_, List.forall_mem_singleton.2 List.not_mem_nil⟩
    have hfree : '\n' ∉ (declaration .empty "package" package).toList :=
      lineFeed_not_mem_declaration (by decide) htoken
    simp [hfree]

theorem lineFeed_not_mem_docLines (doc? : Option String) :
    ∀ line ∈ docLines doc?, '\n' ∉ line := by
  cases doc? with
  | none => exact fun line hline => absurd hline List.not_mem_nil
  | some doc =>
    refine List.forall_mem_cons.2 ⟨by decide, List.forall_mem_append.2
      ⟨List.forall_mem_map.2 fun l hl => ?_, List.forall_mem_singleton.2 (by decide)⟩⟩
    have hfree := Text.lineFeed_not_mem_of_mem_linesOf hl
    unfold Page.docLine
    split
    · decide
    · simp [hfree]

theorem IsLegible.lineFeed_not_mem_members (h : c.IsLegible) :
    ∀ f ∈ c.members, ∀ line ∈ linesAll 1 [f], '\n' ∉ line := by
  -- an entry is a line or a block, and its declaration has no line feed
  intro f hf
  rcases List.mem_append.1 hf with hf | hf
  · obtain ⟨field, hfield, rfl⟩ := List.mem_map.1 hf
    have hlegible := h.fields field hfield
    have hfree : '\n' ∉ (declaration field.modifiers field.type.text field.name).toList :=
      lineFeed_not_mem_declaration hlegible.type.isToken hlegible.name
    rw [linesAll_line, Field.declaration_eq]
    exact List.forall_mem_singleton.2 (by simp [hfree])
  · obtain ⟨method, hmethod, rfl⟩ := List.mem_map.1 hf
    have hlegible := h.methods method hmethod
    have hfree : '\n' ∉ (declaration method.modifiers method.returns.text method.name).toList :=
      lineFeed_not_mem_declaration hlegible.returns.isToken hlegible.name
    rw [Method.fragment_eq, linesAll_braced]
    refine List.forall_mem_cons.2 ⟨by simp [hfree], List.forall_mem_append.2
      ⟨List.forall_mem_map.2 fun l hl => ?_, List.forall_mem_singleton.2 (by decide)⟩⟩
    simp [hlegible.body l hl]

theorem mem_linesAll_intersperse {fs : List Fragment} {line : List Char}
    (h : line ∈ linesAll 1 (fs.intersperse .blank)) :
    line = [] ∨ ∃ f ∈ fs, line ∈ linesAll 1 [f] := by
  cases fs with
  | nil => exact absurd h List.not_mem_nil
  | cons f rest =>
    rw [linesAll_intersperse, List.mem_append, List.mem_flatMap] at h
    rcases h with h | ⟨g, hg, h⟩
    · exact Or.inr ⟨f, List.mem_cons_self, h⟩
    · exact (List.mem_cons.1 h).imp id fun h => ⟨g, List.mem_cons_of_mem _ hg, h⟩

/-- No line of a legible class has a line feed. -/
theorem IsLegible.lineFeed_not_mem_lines (h : c.IsLegible) : ∀ line ∈ c.lines, '\n' ∉ line := by
  refine List.forall_mem_append.2 ⟨lineFeed_not_mem_frontLines h.package,
    List.forall_mem_append.2 ⟨lineFeed_not_mem_docLines _, List.forall_mem_cons.2
      ⟨?_, List.forall_mem_append.2 ⟨?_, List.forall_mem_singleton.2 (by decide)⟩⟩⟩⟩
  · have hfree : '\n' ∉ (declaration c.modifiers "class" c.name).toList :=
      lineFeed_not_mem_declaration (by decide) h.name
    unfold header
    rw [toList_classHeader]
    simp [hfree]
  · -- a line of the members is a blank one between two of them or stands in one of them
    intro line hline
    rcases mem_linesAll_intersperse hline with rfl | ⟨f, hf, hline⟩
    · exact List.not_mem_nil
    · exact h.lineFeed_not_mem_members f hf line hline

/-! ### Lines tell classes -/

theorem frontLines_eq_nil_or (package : String) :
    package = "" ∧ frontLines package = [] ∨
      frontLines package = [("package " ++ package ++ ";").toList, []] := by
  unfold frontLines
  split
  · next hempty => exact Or.inl ⟨String.isEmpty_iff.1 hempty, rfl⟩
  · exact Or.inr rfl

/-- The package is told by the lines in front, since no other line of a file begins it and ends with
a semicolon. -/
theorem frontLines_append_inj {package package' : String} {u v : List (List Char)}
    (hu : ∀ line ∈ u.head?, line.getLast? ≠ some ';')
    (hv : ∀ line ∈ v.head?, line.getLast? ≠ some ';')
    (h : frontLines package ++ u = frontLines package' ++ v) : package = package' ∧ u = v := by
  -- the line of a package is the only one that ends in a semicolon here
  have hlast : ∀ p : String, ("package " ++ p ++ ";").toList.getLast? = some ';' := by
    intro p
    rw [String.toList_append]
    exact List.getLast?_concat
  rcases frontLines_eq_nil_or package with ⟨rfl, hfront⟩ | hfront
  · rcases frontLines_eq_nil_or package' with ⟨rfl, -⟩ | hfront'
    · exact ⟨rfl, List.append_cancel_left h⟩
    · rw [hfront, hfront', List.nil_append] at h
      exact absurd (hlast package') (hu _ (h ▸ rfl))
  · rcases frontLines_eq_nil_or package' with ⟨rfl, hfront'⟩ | hfront'
    · rw [hfront, hfront', List.nil_append] at h
      exact absurd (hlast package) (hv _ (h ▸ rfl))
    · rw [hfront, hfront'] at h
      obtain ⟨hline, hrest⟩ := List.cons_eq_cons.1 h
      have hname := String.toList_inj.1 hline
      rw [String.append_left_inj, String.append_right_inj] at hname
      exact ⟨hname, (List.cons_eq_cons.1 hrest).2⟩

/-- The lines of a comment are told by how they are written. -/
theorem docLine_inj {l l' : String} (h : Page.docLine l = Page.docLine l') : l = l' := by
  unfold Page.docLine at h
  split at h
  · split at h
    · next hl hl' => rw [String.isEmpty_iff.1 hl, String.isEmpty_iff.1 hl']
    · -- a line with a text has a blank behind the star
      have hlength := congrArg (fun s => s.toList[2]?) h
      simp at hlength
  · split at h
    · have hlength := congrArg (fun s => s.toList[2]?) h
      simp at hlength
    · exact (String.append_right_inj _).1 h

theorem docLine_ne_close (l : String) : (Page.docLine l).toList ≠ " */".toList := by
  intro h
  have hthird := congrArg (·[2]?) h
  unfold Page.docLine at hthird
  split at hthird <;> simp at hthird

/-- A documentation comment is told by its lines, and ends with the first of them that ends it. -/
theorem docLines_append_inj {doc? doc?' : Option String} {u v : List (List Char)}
    (hu : ∀ line ∈ u.head?, line.getLast? = some '\x7b')
    (hv : ∀ line ∈ v.head?, line.getLast? = some '\x7b')
    (h : docLines doc? ++ u = docLines doc?' ++ v) :
    doc?.map Text.linesOf = doc?'.map Text.linesOf ∧ u = v := by
  -- the line that closes the comment is none of the lines in it, so it ends them on both sides
  have hclose : ∀ ls : List String, " */".toList ∉ ls.map fun l => (Page.docLine l).toList := by
    intro ls hmem
    obtain ⟨l, -, hl⟩ := List.mem_map.1 hmem
    exact docLine_ne_close l hl
  cases doc? with
  | none =>
    cases doc?' with
    | none => exact ⟨rfl, h⟩
    | some doc =>
      rw [docLines_none, docLines_some, List.nil_append] at h
      exact absurd (hu "/**".toList (h ▸ rfl)) (by decide)
  | some doc =>
    cases doc?' with
    | none =>
      rw [docLines_none, docLines_some, List.nil_append] at h
      exact absurd (hv "/**".toList (h ▸ rfl)) (by decide)
    | some doc' =>
      rw [docLines_some, docLines_some, List.cons_append, List.cons_append, List.append_assoc,
        List.append_assoc, List.cons_eq_cons] at h
      obtain ⟨hdoc, hrest⟩ := append_cons_inj (hclose _) (hclose _) h.2
      have hsame := map_inj_on (fun _ _ _ _ hl => docLine_inj (String.toList_inj.1 hl)) hdoc
      exact ⟨congrArg some hsame, hrest⟩

theorem getLast?_header (c : ClassModel) : c.header.toList.getLast? = some '\x7b' := by
  unfold header
  rw [String.toList_append, List.getLast?_append]
  rfl

/-- The header of a class tells its modifiers and its name. -/
theorem IsLegible.header_inj (h : c.IsLegible) (h' : c'.IsLegible)
    (hheader : c.header.toList = c'.header.toList) :
    c.modifiers = c'.modifiers ∧ c.name = c'.name := by
  unfold header at hheader
  rw [toList_classHeader, toList_classHeader] at hheader
  have hdeclaration := List.append_cancel_right (List.append_cancel_right hheader)
  obtain ⟨hmodifiers, -, hname⟩ := Java.declaration_inj (by decide) h.name (by decide) h'.name
    (String.toList_inj.1 hdeclaration)
  exact ⟨hmodifiers, hname⟩

/-- **The lines of a legible class tell the class.** -/
theorem IsLegible.lines_inj (h : c.IsLegible) (h' : c'.IsLegible) (hlines : c.lines = c'.lines) :
    c.package = c'.package ∧ c.name = c'.name ∧ c.modifiers = c'.modifiers ∧
      c.fields = c'.fields ∧ c.methods = c'.methods ∧
      c.doc.map Text.linesOf = c'.doc.map Text.linesOf := by
  -- what follows the package begins with a comment or with the header
  have hbehind : ∀ (c : ClassModel) (rest : List (List Char)),
      ∀ line ∈ (docLines c.shownDoc? ++ (c.header.toList :: rest)).head?,
        line.getLast? ≠ some ';' := by
    intro c rest line hline
    cases hdoc : c.shownDoc? with
    | none =>
      rw [hdoc, docLines_none] at hline
      rw [← Option.some.inj hline, getLast?_header]
      decide
    | some doc =>
      rw [hdoc, docLines_some] at hline
      rw [← Option.some.inj hline]
      decide
  have hheaders : ∀ (c : ClassModel) (rest : List (List Char)),
      ∀ line ∈ (c.header.toList :: rest).head?, line.getLast? = some '\x7b' := by
    intro c rest line hline
    rw [← Option.some.inj hline, getLast?_header]
  obtain ⟨hpackage, hfile⟩ := frontLines_append_inj (hbehind c _) (hbehind c' _) hlines
  obtain ⟨hdoc, hclass⟩ := docLines_append_inj (hheaders c _) (hheaders c' _) hfile
  obtain ⟨hheader, hbody⟩ := List.cons_eq_cons.1 hclass
  obtain ⟨hmodifiers, hname⟩ := h.header_inj h' hheader
  obtain ⟨hfields, hmethods⟩ := h.members_inj h'
    (linesAll_entries_inj c.isEntry_of_mem_members c'.isEntry_of_mem_members hbody)
  rw [h.doc, h'.doc] at hdoc
  exact ⟨hpackage, hname, hmodifiers, hfields, hmethods, hdoc⟩

/-- **The text of a legible class tells the class.** -/
theorem IsLegible.text_inj (h : c.IsLegible) (h' : c'.IsLegible) (htext : c.text = c'.text) :
    c.lines = c'.lines := by
  have hfree := h.lineFeed_not_mem_lines
  have hfree' := h'.lineFeed_not_mem_lines
  rw [← linesAll_sourceFile] at hfree hfree' ⊢
  rw [← linesAll_sourceFile c']
  unfold text at htext
  rw [SourceFile.text_eq, SourceFile.text_eq] at htext
  exact map_line_inj hfree hfree' htext

end ClassModel

/-! ### Built classes are legible -/

theorem isLegible_of_fieldOf {artifact : String} {f : FieldTemplate} {f' : Field}
    (h : fieldOf artifact f = .ok f') : f'.IsLegible := by
  obtain ⟨⟨⟩, hname, h⟩ := bind_ok h
  obtain ⟨type, htype, h⟩ := bind_ok h
  cases h
  exact ⟨isReadable_of_valueType htype, isToken_of_checkName hname⟩

theorem isLegible_of_methodOf {artifact : String} {m : MethodTemplate} {m' : Method}
    (h : methodOf artifact m = .ok m') (hbody : ∀ line ∈ m'.body, '\n' ∉ line.toList) :
    m'.IsLegible := by
  obtain ⟨⟨⟩, hname, h⟩ := bind_ok h
  obtain ⟨returns, hreturns, h⟩ := bind_ok h
  cases h
  exact ⟨isReadable_of_resultType hreturns, isToken_of_checkName hname, hbody⟩

/-- **A built class is legible** if its statements are one line each. -/
theorem isLegible_of_buildClass {t : ClassTemplate} {r : Request} {c : ClassModel}
    (h : buildClass t r = .ok c)
    (hbody : ∀ m ∈ c.methods, ∀ line ∈ m.body, '\n' ∉ line.toList) : c.IsLegible := by
  obtain ⟨hpackage, hname, fields, methods, hfields, hmethods, rfl⟩ := buildClass_ok h
  refine ⟨isToken_of_checkPackage hpackage, isToken_of_checkName hname, filter_shownDoc? t,
    fun f hf => ?_, fun m hm => ?_⟩
  · obtain ⟨_, -, hfield⟩ := exists_of_mem_mapM_ok hfields f hf
    exact isLegible_of_fieldOf hfield
  · obtain ⟨_, -, hmethod⟩ := exists_of_mem_mapM_ok hmethods m hm
    exact isLegible_of_methodOf hmethod (hbody m hm)

/-- A documentation comment depends on the lines of its text alone. -/
theorem docPart_congr {doc? doc?' : Option String}
    (h : doc?.map Text.linesOf = doc?'.map Text.linesOf) : docPart doc? = docPart doc?' := by
  have hdoc : ∀ d : Option String, docPart d = ((d.map Text.linesOf).map docChars).getD [] := by
    intro d
    cases d <;> rfl
  rw [hdoc, hdoc, h]

/-- **The source text of a built class tells the class**, if its statements are one line each: its
package, its name and its modifiers, its fields and its methods in order with all their statements,
and the lines of its documentation. -/
theorem text_eq_iff {t t' : ClassTemplate} {r r' : Request} {c c' : ClassModel}
    (h : buildClass t r = .ok c) (h' : buildClass t' r' = .ok c')
    (hbody : ∀ m ∈ c.methods, ∀ line ∈ m.body, '\n' ∉ line.toList)
    (hbody' : ∀ m ∈ c'.methods, ∀ line ∈ m.body, '\n' ∉ line.toList) :
    c.text = c'.text ↔
      c.package = c'.package ∧ c.name = c'.name ∧ c.modifiers = c'.modifiers ∧
        c.fields = c'.fields ∧ c.methods = c'.methods ∧
        c.doc.map Text.linesOf = c'.doc.map Text.linesOf := by
  have hlegible := isLegible_of_buildClass h hbody
  have hlegible' := isLegible_of_buildClass h' hbody'
  constructor
  · exact fun htext => hlegible.lines_inj hlegible' (hlegible.text_inj hlegible' htext)
  · rintro ⟨hpackage, hname, hmodifiers, hfields, hmethods, hdoc⟩
    -- the text depends on the comment only through its lines
    have hcomment : docPart c.shownDoc? = docPart c'.shownDoc? := by
      rw [hlegible.doc, hlegible'.doc]
      exact docPart_congr hdoc
    rw [← String.toList_inj, ClassModel.toList_text, ClassModel.toList_text, hcomment, hpackage]
    unfold ClassModel.members ClassModel.header
    rw [hname, hmodifiers, hfields, hmethods]

/-- Two templates whose modifiers are listed differently and whose documentation has other line
endings, with a method that has a brace and a field for statements. -/
theorem text_eq_iff_littered :
    let field : FieldTemplate := { name := "x", type := "int[]", modifiers := [.privateAccess] }
    let method : MethodTemplate := { name := "run", body := ["\x7d", "", "private int[] x;"] }
    let t : ClassTemplate :=
      ⟨"C", some "a\r\n\nb", [.final, .publicAccess, .final], [field], [method]⟩
    let t' : ClassTemplate :=
      ⟨"C", some "a\n\nb\n", [.publicAccess, .final], [field], [method]⟩
    ∃ c c', buildClass t ⟨"p.q", "C"⟩ = .ok c ∧ buildClass t' ⟨"p.q", "C"⟩ = .ok c' ∧
      (∀ m ∈ c.methods, ∀ line ∈ m.body, '\n' ∉ line.toList) ∧
      (∀ m ∈ c'.methods, ∀ line ∈ m.body, '\n' ∉ line.toList) ∧
      c ≠ c' ∧ c.text = c'.text ∧
      (c.methods.map (·.body)) = [["\x7d", "", "private int[] x;"]] := by
  intro field method t t'
  let built (doc : String) : ClassModel :=
    ⟨"p.q", "C", .ofList [.publicAccess, .final], some doc,
      [⟨"x", .array (.primitive .int), .ofList [.privateAccess]⟩],
      [⟨"run", .void, .empty, ["\x7d", "", "private int[] x;"]⟩]⟩
  have hbuild : buildClass t ⟨"p.q", "C"⟩ = .ok (built "a\r\n\nb") :=
    eq_ok_of_toOption (by decide +kernel)
  have hbuild' : buildClass t' ⟨"p.q", "C"⟩ = .ok (built "a\n\nb\n") :=
    eq_ok_of_toOption (by decide +kernel)
  -- the two models have the same body, and none of its lines breaks in two
  have hbody : ∀ m ∈ (built "").methods, ∀ line ∈ m.body, '\n' ∉ line.toList := by decide
  have hdocs : (built "a\r\n\nb").doc ≠ (built "a\n\nb\n").doc := by decide
  refine ⟨_, _, hbuild, hbuild', hbody, hbody, fun h => hdocs (congrArg _ h), ?_, rfl⟩
  exact (text_eq_iff hbuild hbuild' hbody hbody).2
    ⟨rfl, rfl, rfl, rfl, rfl, by decide +kernel⟩

end Java

end Stencil
