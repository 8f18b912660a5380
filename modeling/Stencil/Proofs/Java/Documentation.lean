import Stencil.Proofs.Java.Agreement
import Stencil.Proofs.Java.ScanSteps

/-!
# Documentation and the class it describes

The documentation text of a template is laid out in a comment, whatever it is. If it has a `*/` in
it, the comment ends there, and what follows is read as code: it may declare modifiers, members and
a package, or leave a brace open.

`docCode` is what stripping leaves of the comment, and a text is **harmless** if that code comes to
nothing: no package, no modifiers, no members, no brace left open and nothing pending. A class name
does no harm, since that of the class is read after it. So

* a text without `*/` is harmless (`harmless_of_not_infix`);
* with a harmless text every class is read as without it (`read_eq_of_harmless`);
* a text with which every class is read as without it is harmless (`harmless_of_keepsClasses`). Two
  classes are enough to tell, which differ in nothing but their names: code before the class header
  can hit one name, but not both.
-/

namespace Stencil.Java

open Outline

/-! ### What the comment leaves -/

/-- What is left of the comment with a documentation text. -/
def docCode (doc : String) : List Char :=
  stripComments (docPart ((some doc).filter (!·.isEmpty)))

/-- **A scan is idle** if it is where it began, but for white space and the name of a class. -/
structure Outline.Scan.IsIdle (s : Scan) : Prop where
  found : s.found = { className := s.found.className }
  depth : s.depth = 0
  pending : Text.Spaces s.pending

instance (s : Scan) : Decidable s.IsIdle :=
  decidable_of_iff
    (s.found = { className := s.found.className } ∧ s.depth = 0 ∧ Text.Spaces s.pending)
    ⟨fun h => ⟨h.1, h.2.1, h.2.2⟩, fun h => ⟨h.found, h.depth, h.pending⟩⟩

/-- **A documentation text is harmless** if what its comment leaves comes to nothing. -/
def Harmless (doc : String) : Prop :=
  ∃ s, (docCode doc).foldlM Scan.next {} = .ok s ∧ s.IsIdle

instance (doc : String) : Decidable (Harmless doc) :=
  match h : (docCode doc).foldlM Scan.next {} with
  | .error _ => isFalse fun ⟨_, hs, _⟩ => by rw [h] at hs; contradiction
  | .ok s => decidable_of_iff s.IsIdle
    ⟨fun hidle => ⟨s, h, hidle⟩, fun ⟨_, hs, hidle⟩ => by rw [h] at hs; cases hs; exact hidle⟩

/-- **A documentation text keeps the classes that it describes** if every one that can be read
without it is read as the same class with it. -/
def KeepsClasses (doc : String) : Prop :=
  ∀ (t : ClassTemplate) (r : Request) (a b : Artifact) (o : Outline), t.doc = some doc →
    Strategy.structured.render t r = .ok a →
    Strategy.structured.render { t with doc := none } r = .ok b →
    Outline.read b.content = .ok o → Outline.read a.content = .ok o

/-- The comment is stripped on its own. -/
theorem strip_docPart (doc? : Option String) (rest : List Char) :
    stripFrom .code (docPart doc? ++ rest) =
      stripComments (docPart doc?) ++ stripFrom .code rest := by
  cases doc? with
  | none => rfl
  | some doc =>
    -- what the comment leaves is the same whatever follows it, so also if nothing does
    obtain ⟨left, hleft⟩ := exists_strip_docChars (Text.linesOf doc)
    have halone := hleft []
    rw [List.append_nil, stripFrom_nil] at halone
    change stripFrom .code (docChars (Text.linesOf doc) ++ rest) =
      stripFrom .code (docChars (Text.linesOf doc)) ++ _
    rw [hleft, halone, List.append_assoc, List.cons_append, List.nil_append]

theorem over_docPart (doc? : Option String) (s : Scan) (rest : List Char) :
    s.over (docPart doc? ++ rest) =
      ((stripComments (docPart doc?)).foldlM Scan.next s).bind (·.over rest) := by
  unfold Scan.over
  rw [show stripComments (docPart doc? ++ rest) = _ from strip_docPart doc? rest,
    List.foldlM_append]
  rfl

/-- A comment leaves a text that a line feed ends. -/
theorem exists_docCode {doc : String} (h : doc ≠ "") : ∃ left, docCode doc = left ++ ['\n'] := by
  obtain ⟨left, hleft⟩ := exists_strip_docChars (Text.linesOf doc)
  refine ⟨left, ?_⟩
  have hsome : (some doc).filter (!·.isEmpty) = some doc :=
    Option.filter_some_pos (by simpa using h)
  have halone := hleft []
  rw [List.append_nil, stripFrom_nil] at halone
  unfold docCode
  rw [hsome]
  exact halone

/-- **A text without `*/` is harmless.** -/
theorem harmless_of_not_infix {doc : String} (h : ¬ ['*', '/'] <:+: doc.toList) :
    Harmless doc := by
  by_cases hempty : doc = ""
  · subst hempty
    exact ⟨{}, rfl, rfl, rfl, Text.Spaces.nil⟩
  · -- a comment that is closed by its own end leaves the line feed behind it
    have hsome : (some doc).filter (!·.isEmpty) = some doc :=
      Option.filter_some_pos (by simpa using hempty)
    have hcode : docCode doc = ['\n'] := by
      have halone := stripFrom_docChars (not_infix_linesOf h) []
      rw [List.append_nil, stripFrom_nil] at halone
      unfold docCode
      rw [hsome]
      exact halone
    refine ⟨⟨{}, 0, ['\n']⟩, ?_, rfl, rfl, Text.spaces_lineFeed⟩
    rw [hcode]
    rfl

/-! ### Harmless texts -/

/-- A class is read alike behind any layout and whatever class name was found before it. -/
theorem over_classChars {t : ClassTemplate} {r : Request} (hname : IsToken r.className.toList)
    {ws ws' : List Char} (hws : Text.Spaces ws) (hws' : Text.Spaces ws') (package : Option String)
    (name name' : String) :
    Scan.over ⟨{ package, className := name }, 0, ws⟩ (classChars t r) =
      Scan.over ⟨{ package, className := name' }, 0, ws'⟩ (classChars t r) := by
  unfold classChars
  rw [passes_classHeader hname hws, passes_classHeader hname hws']

/-- **With a harmless text a class is read as without it.** -/
theorem read_eq_of_harmless {doc : String} (h : Harmless doc) {t : ClassTemplate} {r : Request}
    {a b : Artifact} (hdoc : t.doc = some doc) (ha : Strategy.structured.render t r = .ok a)
    (hb : Strategy.structured.render { t with doc := none } r = .ok b) :
    Outline.read a.content = Outline.read b.content := by
  obtain ⟨⟨found, depth, pending⟩, hs, hfound, hdepth, hpending⟩ := h
  dsimp only at hfound hdepth hpending
  subst hdepth
  obtain ⟨hspelt, hchars⟩ := toList_content_of_render ha
  obtain ⟨-, hchars'⟩ := toList_content_of_render hb
  -- both texts begin with the package declaration, behind which the comment is read as before it
  obtain ⟨ws, hws, hpackage⟩ := declares_packageChars hspelt.package [] Text.Spaces.nil
  obtain ⟨ws', hws', hcode⟩ := foldlM_behind hs (by rw [hfound])
    (if r.package.isEmpty then none else some r.package) hws
  generalize (if r.package.isEmpty then none else some r.package) = package at hpackage hcode
  have hshown : t.shownDoc? = (some doc).filter (!·.isEmpty) := by
    unfold ClassTemplate.shownDoc?
    rw [hdoc]
  have hcomment : Passes ⟨{ package }, 0, ws⟩ (docPart t.shownDoc?)
      ⟨{ package, className := found.className }, 0, pending ++ ws'⟩ := by
    rw [hshown]
    refine Passes.of_strip (docCode doc) (strip_docPart _) (hcode.trans ?_)
    unfold Scan.behind
    dsimp only
    rw [hfound]
  have hover : Scan.over {} a.content.toList = Scan.over {} b.content.toList :=
    calc Scan.over {} a.content.toList
      _ = Scan.over ⟨{ package }, 0, ws⟩ (docPart t.shownDoc? ++ classChars t r) := by
        rw [hchars]
        exact hpackage _
      _ = Scan.over ⟨{ package, className := found.className }, 0, pending ++ ws'⟩
          (classChars t r) := hcomment _
      _ = Scan.over ⟨{ package }, 0, ws⟩ (classChars t r) :=
        -- the header names the class anew
        over_classChars hspelt.className (hpending.append hws') hws _ _ _
      _ = Scan.over {} b.content.toList := by
        rw [hchars']
        exact (hpackage _).symm
  rw [read_eq_bind, read_eq_bind, hover]

/-! ### Texts that do harm -/

/-- A class with nothing in it but its documentation. -/
def plainClass (name : String) (doc : Option String) : ClassTemplate :=
  { className := name, doc }

/-- A plain class is rendered if its name is one, whatever its documentation is. -/
theorem exists_render_plainClass {name : String} (hname : fault? name = none)
    (doc : Option String) :
    ∃ a, Strategy.structured.render (plainClass name doc) ⟨"", name⟩ = .ok a := by
  have hbuild : ∃ c, buildClass (plainClass name doc) ⟨"", name⟩ = .ok c := by
    unfold buildClass checkPackage checkName
    dsimp only
    rw [hname]
    exact ⟨_, rfl⟩
  obtain ⟨c, hc⟩ := hbuild
  exact ⟨_, Strategy.render_structured_of_ok hc⟩

/-- A plain class without documentation is read as what it is. -/
theorem read_plainClass {name : String} (hname : IsToken name.toList) {a : Artifact}
    (h : Strategy.structured.render (plainClass name none) ⟨"", name⟩ = .ok a) :
    Outline.read a.content = .ok { className := name } :=
  read_of_parts hname (toList_content_of_render h).2 (declares_packageChars (Or.inl rfl))
    (Declares.refl 0) (Declares.refl 1)

/-- What a plain class has to say. -/
theorem classChars_plainClass (name : String) (doc : Option String) :
    classChars (plainClass name doc) ⟨"", name⟩ =
      ((declaration .empty "class" name).toList ++ [' ']) ++ ['\x7b', '\n', '\x7d', '\n'] := by
  unfold classChars declaration
  simp only [String.toList_append, List.append_assoc]
  rfl

/-- **A header that declares nothing but a name** declares it in its second word, and was read into
an outline with nothing but a name. -/
theorem readClassHeader_eq_bare {o : Outline} {header : List Char} {name : String}
    (h : o.readClassHeader header = .ok { className := name }) :
    o = { className := o.className } ∧
      ∃ keyword rest, (Text.words header).map String.ofList = keyword :: name :: rest := by
  obtain ⟨keyword, name', rest, hdrop, hall⟩ := readClassHeader_ok h
  -- all parts of the outline but the name come from before the header
  have heq := Except.ok.inj ((hall o).symm.trans h)
  have hmodifiers := congrArg Outline.classModifiers heq
  obtain ⟨hown, htake⟩ := List.append_eq_nil_iff.1 hmodifiers
  have hname : name' = name := congrArg Outline.className heq
  refine ⟨?_, keyword, rest, ?_⟩
  · have hpackage : o.package = none := congrArg Outline.package heq
    have hfields : o.fields = [] := congrArg Outline.fields heq
    have hmethods : o.methods = [] := congrArg Outline.methods heq
    obtain ⟨package, className, classModifiers, fields, methods⟩ := o
    dsimp only at hpackage hown hfields hmethods ⊢
    rw [hpackage, hown, hfields, hmethods]
  · -- no word stands before the keyword, so the words are those from the keyword on
    have hwords := List.takeWhile_append_dropWhile (p := (· ≠ "class"))
      (l := (Text.words header).map String.ofList)
    rw [htake, hdrop, List.nil_append, hname] at hwords
    exact hwords.symm

/-- **A plain class that is read as such** is read outside of all braces, and its header is read
with what is pending. -/
theorem readClassHeader_of_read {name : String} (hname : IsToken name.toList) {s : Scan}
    (h : (Scan.over s (classChars (plainClass name none) ⟨"", name⟩)).bind Scan.finish =
      .ok { className := name }) :
    s.depth = 0 ∧
      s.found.readClassHeader (Text.trim
        (s.pending.reverse ++ ((declaration .empty "class" name).toList ++ [' ']))) =
          .ok { className := name } := by
  obtain ⟨o, d, q⟩ := s
  have hquiet : IsQuiet ((declaration .empty "class" name).toList ++ [' ']) :=
    (isQuiet_declaration (by decide) hname).append (by decide)
  rw [classChars_plainClass] at h
  generalize (declaration .empty "class" name).toList ++ [' '] = w at h hquiet ⊢
  -- there is no slash in the class, so it has no comments to strip
  have hslash : '/' ∉ w ++ ['\x7b', '\n', '\x7d', '\n'] := by
    rw [List.mem_append]
    exact fun hmem => hmem.elim (fun hw => hquiet '/' hw List.mem_cons_self) (by decide)
  obtain ⟨t, hover, hfinish⟩ := bind_ok h
  unfold Scan.over at hover
  rw [stripComments_of_not_mem hslash] at hover
  obtain ⟨hclosed, hfound⟩ := Scan.finish_ok hfinish
  -- the header and the body of the class have one brace each
  have hdepth : d = 0 := by
    have hcount := depth_of_foldlM hover
    have hopen : w.count '\x7b' = 0 :=
      List.count_eq_zero.2 fun hmem => hquiet '\x7b' hmem (by decide)
    have hclose : w.count '\x7d' = 0 :=
      List.count_eq_zero.2 fun hmem => hquiet '\x7d' hmem (by decide)
    rw [List.count_append, List.count_append, hopen, hclose, hclosed] at hcount
    have hbraces : ['\x7b', '\n', '\x7d', '\n'].count '\x7d' =
        ['\x7b', '\n', '\x7d', '\n'].count '\x7b' := by decide
    dsimp only at hcount
    omega
  subst hdepth
  refine ⟨rfl, ?_⟩
  -- up to the brace the header waits behind what is pending
  rw [List.foldlM_append, foldlM_quiet hquiet o (by decide) q] at hover
  obtain ⟨s', hstep, hrest⟩ := foldlM_cons_ok hover
  cases hstep with
  | openClass hheader =>
    rw [List.reverse_append, List.reverse_reverse] at hheader
    cases hrest
    cases hfound
    exact hheader
  | wait hc _ => exact absurd List.mem_cons_self hc

/-- Behind a line feed, the words of a class header are its own. -/
theorem words_header {name : String} (hname : IsToken name.toList) (p : List Char) :
    (Text.words (Text.trim (('\n' :: p).reverse ++
        ((declaration .empty "class" name).toList ++ [' '])))).map String.ofList =
      (Text.words p.reverse).map String.ofList ++ ["class", name] := by
  have hspace : Text.Spaces [' '] := Text.spaces_replicate 1
  rw [Text.words_trim, List.reverse_cons, List.append_assoc, List.singleton_append,
    Text.words_append_space (by rfl), Text.words_append_spaces hspace, List.map_append,
    words_declaration (by decide) hname]
  rfl

/-- **Code before two headers hits one of them.** A text with words before the headers of a class
`A` and of a class `B` cannot declare both as they are. -/
theorem eq_nil_of_two_headers {words : List String}
    (hA : ∃ keyword rest, words ++ ["class", "A"] = keyword :: "A" :: rest)
    (hB : ∃ keyword rest, words ++ ["class", "B"] = keyword :: "B" :: rest) : words = [] := by
  obtain ⟨k, rest, hA⟩ := hA
  obtain ⟨k', rest', hB⟩ := hB
  match words with
  | [] => rfl
  | [w] =>
    -- the second word is the keyword
    have hsecond : "class" = "A" := (List.cons.inj (List.cons.inj hA).2).1
    exact absurd hsecond (by decide)
  | w :: w' :: _ =>
    -- the second word is neither name, or both
    have h1 : w' = "A" := (List.cons.inj (List.cons.inj hA).2).1
    have h2 : w' = "B" := (List.cons.inj (List.cons.inj hB).2).1
    exact absurd (h1.symm.trans h2) (by decide)

/-- **A text with which every class is read as without it is harmless.** -/
theorem harmless_of_keepsClasses {doc : String} (h : KeepsClasses doc) : Harmless doc := by
  by_cases hempty : doc = ""
  · subst hempty
    exact harmless_of_not_infix (by decide)
  -- what a plain class with the documentation is read as, after the comment has been
  have hplain : ∀ name, fault? name = none → ∃ s, (docCode doc).foldlM Scan.next {} = .ok s ∧
      s.depth = 0 ∧ s.found.readClassHeader (Text.trim
        (s.pending.reverse ++ ((declaration .empty "class" name).toList ++ [' ']))) =
          .ok { className := name } := by
    intro name hfault
    have hname : IsToken name.toList := isToken_of_fault? hfault
    obtain ⟨a, ha⟩ := exists_render_plainClass hfault (some doc)
    obtain ⟨b, hb⟩ := exists_render_plainClass hfault none
    have hread := h _ _ a b _ rfl ha hb (read_plainClass hname hb)
    rw [read_eq_bind, (toList_content_of_render ha).2] at hread
    change (Scan.over {} (docPart _ ++ _)).bind _ = _ at hread
    rw [over_docPart] at hread
    obtain ⟨s, hs, hclass⟩ : ∃ s, (docCode doc).foldlM Scan.next {} = .ok s ∧
        (s.over (classChars (plainClass name none) ⟨"", name⟩)).bind Scan.finish =
          .ok { className := name } := by
      obtain ⟨t, hover, hfinish⟩ := bind_ok hread
      obtain ⟨s, hs, hrest⟩ := bind_ok hover
      exact ⟨s, hs, (congrArg (·.bind Scan.finish) hrest).trans hfinish⟩
    exact ⟨s, hs, readClassHeader_of_read hname hclass⟩
  obtain ⟨s, hs, hdepth, hA⟩ := hplain "A" (by decide +kernel)
  obtain ⟨s', hs', -, hB⟩ := hplain "B" (by decide +kernel)
  cases hs.symm.trans hs'
  -- the comment ends with a line feed, so no word of it runs into the header
  obtain ⟨p, hpending⟩ : ∃ p, s.pending = '\n' :: p := by
    obtain ⟨left, hleft⟩ := exists_docCode hempty
    rw [hleft, List.foldlM_append] at hs
    obtain ⟨s₁, -, hlast⟩ := bind_ok hs
    obtain ⟨s₂, hstep, hnil⟩ := foldlM_cons_ok hlast
    cases hnil
    cases hstep with
    | wait _ _ => exact ⟨_, rfl⟩
    | skip _ => contradiction
  rw [hpending] at hA hB
  -- the header is read for two names, and no words before it suit both unless there are none
  obtain ⟨hfound, hwordsA⟩ := readClassHeader_eq_bare hA
  obtain ⟨-, hwordsB⟩ := readClassHeader_eq_bare hB
  rw [words_header (isToken_of_fault? (by decide +kernel))] at hwordsA hwordsB
  have hnone := List.map_eq_nil_iff.1 (eq_nil_of_two_headers hwordsA hwordsB)
  refine ⟨s, hs, hfound, hdepth, ?_⟩
  rw [hpending]
  exact Text.Spaces.cons (by rfl)
    (List.reverse_reverse p ▸ (Text.spaces_of_words_eq_nil hnone).reverse)

/-- **A documentation text keeps the classes that it describes exactly if it is harmless**, and
every text without `*/` is. -/
theorem keepsClasses_iff_harmless (doc : String) :
    (KeepsClasses doc ↔ Harmless doc) ∧ (¬ ['*', '/'] <:+: doc.toList → Harmless doc) := by
  refine ⟨⟨harmless_of_keepsClasses, ?_⟩, harmless_of_not_infix⟩
  intro h t r a b o hdoc ha hb hread
  rw [read_eq_of_harmless h hdoc ha hb]
  exact hread

/-- A word between two comments is a modifier of the class behind them. -/
theorem not_keepsClasses_final :
    ¬ KeepsClasses "*/ final /*" ∧
      ((Strategy.structured.render (plainClass "A" (some "*/ final /*")) ⟨"", "A"⟩).toOption.bind
          fun a => (Outline.read a.content).toOption) =
        some { className := "A", classModifiers := ["final"] } :=
  ⟨fun h => absurd (harmless_of_keepsClasses h) (by decide +kernel), by decide +kernel⟩

end Stencil.Java
