import Stencil.Java.Outline
import Stencil.Proofs.Java.CommentStripping
import Stencil.Proofs.Java.Spelling

/-!
# Scanning declarations

An outline is read by one scan over the text that comment stripping leaves. `Passes s u s'` says
that a text `u`, comments included, takes the scan `s` to `s'` **whatever follows it**. It composes
(`Passes.append`), so a source text is dealt with part by part, and a part that passes needs no
second look when the text around it changes.

The parts of generated source text are the package declaration, the class header, a field, the
header of a method, the body of a method, and layout between them:

* `passes_package`, `passes_classHeader`, `passes_field`, `passes_methodHeader` — each declaration
  adds what it declares, provided that its names and types are tokens;
* `passes_bodyLine` — a line of a body without `/*` does nothing but count its braces;
* `passes_quiet` — a text without slashes, braces and semicolons waits for its declaration.
-/

namespace Stencil.Java.Outline

/-! ### Passing over a text -/

/-- The scan after the code of a text. -/
def Scan.over (s : Scan) (text : List Char) : Except OutlineError Scan :=
  (stripComments text).foldlM Scan.next s

/-- **A text passes** if it takes the scan on, whatever follows. -/
def Passes (s : Scan) (u : List Char) (s' : Scan) : Prop :=
  ∀ rest, s.over (u ++ rest) = s'.over rest

theorem read_eq_bind (source : String) :
    read source = (Scan.over {} source.toList).bind Scan.finish := rfl

/-- The outline of a text that passes. -/
theorem Passes.read {source : String} {s : Scan} (h : Passes {} source.toList s) :
    Outline.read source = s.finish := by
  have hover := h []
  rw [List.append_nil] at hover
  rw [read_eq_bind, hover]
  rfl

theorem Passes.refl (s : Scan) : Passes s [] s :=
  fun _ => rfl

theorem Passes.append {s s' s'' : Scan} {u v : List Char} (hu : Passes s u s')
    (hv : Passes s' v s'') : Passes s (u ++ v) s'' := by
  intro rest
  rw [List.append_assoc, hu, hv]

/-- What a text leaves without its comments is what takes the scan on. -/
theorem Passes.of_strip {s s' : Scan} {u : List Char} (code : List Char)
    (hstrip : ∀ rest, stripFrom .code (u ++ rest) = code ++ stripFrom .code rest)
    (hcode : code.foldlM Scan.next s = .ok s') : Passes s u s' := by
  intro rest
  unfold Scan.over stripComments
  rw [hstrip, List.foldlM_append, hcode]
  rfl

/-- A character that is no slash stays where it is. -/
theorem Passes.single {s s' : Scan} {c : Char} (hc : c ≠ '/') (h : s.next c = .ok s') :
    Passes s [c] s' := by
  refine Passes.of_strip [c] (stripFrom_code_cons hc) ?_
  rw [List.foldlM_cons, h]
  rfl

/-! ### Texts that wait -/

/-- A text without the characters that a scan reacts to. -/
def IsQuiet (u : List Char) : Prop :=
  ∀ c ∈ u, c ∉ ['/', '\x7b', '\x7d', ';']

instance : DecidablePred IsQuiet := fun u =>
  decidable_of_iff ((u.all fun c => c ∉ ['/', '\x7b', '\x7d', ';']) = true)
    (List.all_eq_true.trans (forall₂_congr fun _ _ => decide_eq_true_iff))

theorem IsQuiet.append {u v : List Char} (hu : IsQuiet u) (hv : IsQuiet v) : IsQuiet (u ++ v) :=
  fun c hc => (List.mem_append.1 hc).elim (hu c) (hv c)

theorem isQuiet_of_isToken {w : List Char} (h : IsToken w) : IsQuiet w := by
  intro c hc hmem
  -- none of the four is a character of names and types
  have hall : (['/', '\x7b', '\x7d', ';'].all fun d => !isTokenChar d) = true := by decide
  have hnot := List.all_eq_true.1 hall c hmem
  rw [Bool.not_eq_true'] at hnot
  exact h.ne hc hnot rfl

theorem isQuiet_of_spaces {ws : List Char} (h : Text.Spaces ws) : IsQuiet ws := by
  intro c hc hmem
  have hall : (['/', '\x7b', '\x7d', ';'].all fun d => !Text.isSpace d) = true := by decide
  have hnot := List.all_eq_true.1 hall c hmem
  rw [Bool.not_eq_true', h c hc] at hnot
  exact Bool.noConfusion hnot

/-- A character without meaning of its own is remembered outside of method bodies. -/
theorem Scan.next_quiet {c : Char} (hc : c ∉ ['\x7b', '\x7d', ';']) (o : Outline) {depth : Nat}
    (hd : depth ≤ 1) (pending : List Char) :
    Scan.next ⟨o, depth, pending⟩ c = .ok ⟨o, depth, c :: pending⟩ := by
  simp only [List.mem_cons, List.not_mem_nil, or_false, not_or] at hc
  unfold Scan.next
  rw [if_neg hc.1, if_neg hc.2.1, if_neg hc.2.2, if_pos hd]

/-- A semicolon among the members ends a field. -/
theorem Scan.next_semicolon (o : Outline) (pending : List Char) :
    Scan.next ⟨o, 1, pending⟩ ';' =
      (o.readField (Scan.pendingText ⟨o, 1, pending⟩)).bind fun found => .ok ⟨found, 1, []⟩ := rfl

/-- A semicolon outside of the class ends a statement. -/
theorem Scan.next_semicolon_top (o : Outline) (pending : List Char) :
    Scan.next ⟨o, 0, pending⟩ ';' =
      (o.readStatement (Scan.pendingText ⟨o, 0, pending⟩)).bind fun found =>
        .ok ⟨found, 0, []⟩ := rfl

/-- A brace among the members opens the body of a method. -/
theorem Scan.next_open (o : Outline) (pending : List Char) :
    Scan.next ⟨o, 1, pending⟩ '{' =
      (o.addMethod (Scan.pendingText ⟨o, 1, pending⟩)).bind fun found => .ok ⟨found, 2, []⟩ := rfl

/-- A brace outside of the class opens the class. -/
theorem Scan.next_open_top (o : Outline) (pending : List Char) :
    Scan.next ⟨o, 0, pending⟩ '{' =
      (o.readClassHeader (Scan.pendingText ⟨o, 0, pending⟩)).bind fun found =>
        .ok ⟨found, 1, []⟩ := rfl

theorem Scan.next_close (o : Outline) (depth : Nat) (pending : List Char) :
    Scan.next ⟨o, depth + 1, pending⟩ '}' = .ok ⟨o, depth, []⟩ := rfl

theorem foldlM_quiet {u : List Char} (hu : IsQuiet u) (o : Outline) {depth : Nat}
    (hd : depth ≤ 1) (pending : List Char) :
    u.foldlM Scan.next ⟨o, depth, pending⟩ = .ok ⟨o, depth, u.reverse ++ pending⟩ := by
  induction u generalizing pending with
  | nil => rfl
  | cons c u ih =>
    have hc : c ∉ ['\x7b', '\x7d', ';'] := fun h =>
      hu c List.mem_cons_self (List.mem_cons_of_mem _ h)
    rw [List.foldlM_cons, Scan.next_quiet hc o hd]
    refine (ih (fun d hmem => hu d (List.mem_cons_of_mem _ hmem)) (c :: pending)).trans ?_
    rw [List.reverse_cons, List.append_assoc, List.singleton_append]

/-- **A quiet text waits** for the declaration that it belongs to. -/
theorem passes_quiet {u : List Char} (hu : IsQuiet u) (o : Outline) {depth : Nat}
    (hd : depth ≤ 1) (pending : List Char) :
    Passes ⟨o, depth, pending⟩ u ⟨o, depth, u.reverse ++ pending⟩ := by
  refine Passes.of_strip u (stripFrom_code_append_of_not_mem ?_) (foldlM_quiet hu o hd pending)
  exact fun hmem => hu '/' hmem List.mem_cons_self

/-- Layout around declarations keeps being layout. -/
theorem passes_spaces {ws pending : List Char} (hws : Text.Spaces ws) (o : Outline) {depth : Nat}
    (hd : depth ≤ 1) :
    Passes ⟨o, depth, pending⟩ ws ⟨o, depth, ws.reverse ++ pending⟩ :=
  passes_quiet (isQuiet_of_spaces hws) o hd pending

/-- What waits is read without the layout before it and behind it. -/
theorem Scan.pendingText_eq (o : Outline) (depth : Nat) {s before behind : List Char}
    (hbefore : Text.Spaces before) (hbehind : Text.Spaces behind)
    (hs : Text.trim s = s) :
    Scan.pendingText ⟨o, depth, (s ++ behind).reverse ++ before⟩ = s := by
  unfold Scan.pendingText
  rw [List.reverse_append, List.reverse_reverse, Text.trim_space_append hbefore.reverse,
    Text.trim_append_space hbehind, hs]

/-- **A quiet text is read at the character that ends it**, without the layout around it. The
character may be any that the scan answers when the text is what is pending. -/
theorem passes_upTo {s behind ws : List Char} {c : Char} {o : Outline} {depth : Nat} {t : Scan}
    (hquiet : IsQuiet s) (hs : Text.trim s = s) (hbehind : Text.Spaces behind)
    (hws : Text.Spaces ws) (hd : depth ≤ 1) (hc : c ≠ '/')
    (hnext : ∀ p, Scan.pendingText ⟨o, depth, p⟩ = s → Scan.next ⟨o, depth, p⟩ c = .ok t) :
    Passes ⟨o, depth, ws⟩ (s ++ behind ++ [c]) t := by
  refine (passes_quiet (hquiet.append (isQuiet_of_spaces hbehind)) o hd ws).append ?_
  exact Passes.single hc (hnext _ (Scan.pendingText_eq o depth hws hbehind hs))

/-! ### Declarations -/

/-- A declaration: modifiers, a type and a name. -/
def declaration (ms : ModifierSet) (type name : String) : String :=
  ms.text ++ type ++ " " ++ name

/-- The words of a modifier set, in its order. -/
def keywords (ms : ModifierSet) : List String :=
  ms.toList.map (·.keyword)

theorem toList_text (ms : ModifierSet) :
    ms.text.toList = ms.toList.flatMap fun m => m.keyword.toList ++ [' '] := by
  unfold ModifierSet.text
  rw [String.toList_join, List.flatMap_map]
  simp only [String.toList_append]
  rfl

/-- The modifiers before a text are words of their own. -/
theorem words_text_append (ms : ModifierSet) (s : List Char) :
    Text.words (ms.text.toList ++ s) = (keywords ms).map String.toList ++ Text.words s := by
  rw [toList_text]
  unfold keywords
  induction ms.toList with
  | nil => rfl
  | cons m rest ih =>
    rw [List.flatMap_cons, List.append_assoc, List.append_assoc, List.singleton_append,
      Text.words_append_space (by rfl), ih,
      Text.words_solid (isToken_keyword m).ne_nil (isToken_keyword m).solid]
    rfl

theorem isQuiet_text (ms : ModifierSet) : IsQuiet ms.text.toList := by
  intro c hc
  rw [toList_text] at hc
  obtain ⟨m, -, hm⟩ := List.mem_flatMap.1 hc
  rcases List.mem_append.1 hm with h | h
  · exact isQuiet_of_isToken (isToken_keyword m) c h
  · rw [List.mem_singleton.1 h]
    decide

/-- A text that modifiers and then a token begin does not begin with white space. -/
theorem head_text_append {ms : ModifierSet} {w s : List Char} (hw : IsToken w) :
    ∀ c ∈ (ms.text.toList ++ (w ++ s)).head?, Text.isSpace c = false := by
  have htoken : ∀ {u : List Char} (v : List Char), IsToken u →
      ∀ c ∈ (u ++ v).head?, Text.isSpace c = false := by
    intro u v hu c hc
    obtain ⟨d, rest, rfl⟩ := List.exists_cons_of_ne_nil hu.ne_nil
    obtain rfl : d = c := Option.some.inj hc
    exact hu.solid d List.mem_cons_self
  rw [toList_text]
  -- the first token is that of the first modifier, if there is one
  cases ms.toList with
  | nil => exact htoken s hw
  | cons m rest =>
    rw [List.flatMap_cons, List.append_assoc, List.append_assoc]
    exact htoken _ (isToken_keyword m)

/-- A text that a token ends does not end with white space. -/
theorem getLast_append_isToken {u w : List Char} (hw : IsToken w) :
    ∀ c ∈ (u ++ w).getLast?, Text.isSpace c = false := by
  intro c hc
  rw [List.getLast?_append, List.getLast?_eq_some_getLast hw.ne_nil] at hc
  obtain rfl : w.getLast hw.ne_nil = c := Option.some.inj hc
  exact hw.solid _ (List.getLast_mem hw.ne_nil)

section Declaration

variable {ms : ModifierSet} {type name : String}

theorem toList_declaration :
    (declaration ms type name).toList =
      ms.text.toList ++ (type.toList ++ ' ' :: name.toList) := by
  unfold declaration
  simp only [String.toList_append, List.append_assoc]
  rfl

theorem isQuiet_declaration (htype : IsToken type.toList) (hname : IsToken name.toList) :
    IsQuiet (declaration ms type name).toList := by
  rw [toList_declaration]
  refine (isQuiet_text ms).append ((isQuiet_of_isToken htype).append ?_)
  exact IsQuiet.append (u := [' ']) (by decide) (isQuiet_of_isToken hname)

theorem trim_declaration (htype : IsToken type.toList) (hname : IsToken name.toList) :
    Text.trim (declaration ms type name).toList = (declaration ms type name).toList := by
  refine Text.trim_eq_self ?_ ?_
  · rw [toList_declaration]
    exact head_text_append htype
  · unfold declaration
    rw [String.toList_append]
    exact getLast_append_isToken hname

/-- The words of a declaration are its modifiers, its type and its name. -/
theorem words_declaration (htype : IsToken type.toList) (hname : IsToken name.toList) :
    (Text.words (declaration ms type name).toList).map String.ofList =
      keywords ms ++ [type, name] := by
  rw [toList_declaration, words_text_append, Text.words_append_space (by rfl),
    Text.words_solid htype.ne_nil htype.solid, Text.words_solid hname.ne_nil hname.solid]
  simp only [List.map_append, List.map_map, List.map_cons, List.map_nil, String.ofList_toList,
    Function.comp_def, List.map_id', List.singleton_append]

/-- **A declaration is read as it was written.** -/
theorem readMember_declaration (htype : IsToken type.toList) (hname : IsToken name.toList)
    (params : Option String) :
    readMember (declaration ms type name).toList params =
      .ok ⟨keywords ms, type, name, params⟩ := by
  unfold readMember
  rw [words_declaration htype hname, List.reverse_append]
  change Except.ok (MemberOutline.mk (keywords ms).reverse.reverse type name params) = _
  rw [List.reverse_reverse]

/-- A declaration consists of tokens and the blanks between them. -/
theorem isTokenChar_or_blank_of_mem (htype : IsToken type.toList) (hname : IsToken name.toList) :
    ∀ c ∈ (declaration ms type name).toList, isTokenChar c = true ∨ c = ' ' := by
  rw [toList_declaration, toList_text]
  -- a character of a modifier, of the type or of the name, or a blank behind one of them
  intro c hc
  rcases List.mem_append.1 hc with hc | hc
  · obtain ⟨m, -, hm⟩ := List.mem_flatMap.1 hc
    rcases List.mem_append.1 hm with h | h
    · exact Or.inl ((isToken_keyword m).chars c h)
    · exact Or.inr (List.mem_singleton.1 h)
  · rcases List.mem_append.1 hc with h | h
    · exact Or.inl (htype.chars c h)
    · rcases List.mem_cons.1 h with rfl | h
      · exact Or.inr rfl
      · exact Or.inl (hname.chars c h)

/-- A character that is neither of a token nor a blank is none of a declaration. -/
theorem not_mem_declaration (htype : IsToken type.toList) (hname : IsToken name.toList) {d : Char}
    (hd : isTokenChar d = false) (hblank : d ≠ ' ') : d ∉ (declaration ms type name).toList := by
  intro hmem
  rcases isTokenChar_or_blank_of_mem htype hname d hmem with h | h
  · rw [h] at hd
    contradiction
  · exact hblank h

theorem paren_not_mem_declaration (htype : IsToken type.toList) (hname : IsToken name.toList) :
    ∀ c ∈ (declaration ms type name).toList, c ≠ '(' := by
  rintro c hc rfl
  exact not_mem_declaration htype hname (by decide) (by decide) hc

/-- The header of a method without parameters is read as it was written. -/
theorem readMethod_declaration (htype : IsToken type.toList) (hname : IsToken name.toList) :
    readMethod (declaration ms type name ++ "()").toList =
      .ok ⟨keywords ms, type, name, some ""⟩ := by
  -- the first parenthesis is the one behind the declaration
  have hopen : ∀ c ∈ (declaration ms type name).toList, decide (c ≠ '(') = true := fun c hc =>
    decide_eq_true (paren_not_mem_declaration htype hname c hc)
  have hchars : (declaration ms type name ++ "()").toList =
      (declaration ms type name).toList ++ ['(', ')'] := by
    rw [String.toList_append]
    rfl
  have hdrop : (declaration ms type name ++ "()").toList.dropWhile (· ≠ '(') = ['(', ')'] := by
    rw [hchars, List.dropWhile_append_of_pos hopen]
    rfl
  have htake : (declaration ms type name ++ "()").toList.takeWhile (· ≠ '(') =
      (declaration ms type name).toList := by
    rw [hchars, List.takeWhile_append_of_pos hopen]
    exact List.append_nil _
  unfold readMethod
  rw [hdrop, htake]
  exact readMember_declaration htype hname (some "")

/-- **A field adds itself.** -/
theorem passes_field (htype : IsToken type.toList) (hname : IsToken name.toList) {ws : List Char}
    (hws : Text.Spaces ws) (o : Outline) :
    Passes ⟨o, 1, ws⟩ (declaration ms type name ++ ";").toList
      ⟨{ o with fields := o.fields ++ [⟨keywords ms, type, name, none⟩] }, 1, []⟩ := by
  have hread : o.readField (declaration ms type name).toList =
      .ok { o with fields := o.fields ++ [⟨keywords ms, type, name, none⟩] } := by
    unfold readField
    rw [readMember_declaration htype hname]
    rfl
  -- the semicolon follows the declaration without layout
  have hsplit : (declaration ms type name ++ ";").toList =
      (declaration ms type name).toList ++ [] ++ [';'] := by
    rw [String.toList_append, List.append_nil]
    rfl
  rw [hsplit]
  refine passes_upTo (isQuiet_declaration htype hname) (trim_declaration htype hname)
    Text.Spaces.nil hws (by decide) (by decide) fun p hp => ?_
  rw [Scan.next_semicolon, hp, hread]
  rfl

theorem isQuiet_methodHeader (htype : IsToken type.toList) (hname : IsToken name.toList) :
    IsQuiet (declaration ms type name ++ "()").toList := by
  rw [String.toList_append]
  exact (isQuiet_declaration htype hname).append (by decide)

theorem trim_methodHeader (htype : IsToken type.toList) :
    Text.trim (declaration ms type name ++ "()").toList =
      (declaration ms type name ++ "()").toList := by
  refine Text.trim_eq_self ?_ ?_
  · rw [String.toList_append, toList_declaration, List.append_assoc, List.append_assoc]
    exact head_text_append htype
  · rw [String.toList_append, List.getLast?_append]
    intro c hc
    obtain rfl : ')' = c := Option.some.inj hc
    rfl

/-- **The header of a method adds the method**, and opens its body. -/
theorem passes_methodHeader (htype : IsToken type.toList) (hname : IsToken name.toList)
    {ws : List Char} (hws : Text.Spaces ws) (o : Outline) :
    Passes ⟨o, 1, ws⟩ (declaration ms type name ++ "()" ++ " \x7b").toList
      ⟨{ o with methods := o.methods ++ [⟨keywords ms, type, name, some ""⟩] }, 2, []⟩ := by
  have hread : o.addMethod (declaration ms type name ++ "()").toList =
      .ok { o with methods := o.methods ++ [⟨keywords ms, type, name, some ""⟩] } := by
    unfold addMethod
    rw [readMethod_declaration htype hname]
    rfl
  -- the blank before the brace is layout
  have hsplit : (declaration ms type name ++ "()" ++ " \x7b").toList =
      (declaration ms type name ++ "()").toList ++ [' '] ++ ['\x7b'] := by
    rw [String.toList_append, List.append_assoc]
    rfl
  rw [hsplit]
  refine passes_upTo (isQuiet_methodHeader htype hname) (trim_methodHeader htype)
    (Text.spaces_replicate 1) hws (by decide) (by decide) fun p hp => ?_
  rw [Scan.next_open, hp, hread]
  rfl

/-! ### Outside of the class -/

theorem class_not_mem_keywords (ms : ModifierSet) :
    ∀ word ∈ keywords ms, decide (word ≠ "class") = true := by
  intro word hword
  obtain ⟨m, -, rfl⟩ := List.mem_map.1 hword
  cases m <;> decide

/-- A class header is read as it was written. -/
theorem readClassHeader_declaration (hname : IsToken name.toList) (o : Outline) :
    o.readClassHeader (declaration ms "class" name).toList =
      .ok { o with
        classModifiers := o.classModifiers ++ keywords ms
        className := name } := by
  -- no modifier is the word for a class, so this word divides the header
  have hdrop : (keywords ms ++ ["class", name]).dropWhile (· ≠ "class") = ["class", name] := by
    rw [List.dropWhile_append_of_pos (class_not_mem_keywords ms)]
    rfl
  have htake : (keywords ms ++ ["class", name]).takeWhile (· ≠ "class") = keywords ms := by
    rw [List.takeWhile_append_of_pos (class_not_mem_keywords ms)]
    exact List.append_nil _
  unfold readClassHeader
  rw [words_declaration (by decide) hname]
  dsimp only
  rw [hdrop, htake]

/-- In a class header, the keyword stands where the type of a member does. -/
theorem toList_classHeader : (ms.text ++ "class " ++ name ++ " \x7b").toList =
    (declaration ms "class" name).toList ++ [' '] ++ ['\x7b'] := by
  rw [toList_declaration]
  simp only [String.toList_append, List.append_assoc]
  rfl

/-- **A class header names the class**, and opens it. -/
theorem passes_classHeader (hname : IsToken name.toList) {ws : List Char}
    (hws : Text.Spaces ws) (o : Outline) :
    Passes ⟨o, 0, ws⟩ (ms.text ++ "class " ++ name ++ " \x7b").toList
      ⟨{ o with
          classModifiers := o.classModifiers ++ keywords ms
          className := name }, 1, []⟩ := by
  have hclass : IsToken "class".toList := by decide
  rw [toList_classHeader]
  -- the blank before the brace is layout, as in the header of a method
  refine passes_upTo (isQuiet_declaration hclass hname) (trim_declaration hclass hname)
    (Text.spaces_replicate 1) hws (by decide) (by decide) fun p hp => ?_
  rw [Scan.next_open_top, hp, readClassHeader_declaration hname]
  rfl

/-- A package declaration is read as it was written. -/
theorem readStatement_declaration (hname : IsToken name.toList) (o : Outline) :
    o.readStatement (declaration .empty "package" name).toList =
      .ok { o with package := some name } := by
  have hchars : (declaration .empty "package" name).toList =
      "package".toList ++ ' ' :: name.toList := by
    rw [toList_declaration]
    rfl
  -- the statement begins with its word, and what is behind it is trimmed
  have hfront : "package".toList.isPrefixOf (declaration .empty "package" name).toList := by
    rw [hchars, List.isPrefixOf_iff_prefix]
    exact List.prefix_append _ _
  have hdrop : (declaration .empty "package" name).toList.drop "package".toList.length =
      List.replicate 1 ' ' ++ name.toList := by
    rw [hchars, List.drop_left]
    rfl
  have htrim : Text.trim name.toList = name.toList := by
    have hlast := getLast_append_isToken hname (u := [])
    refine Text.trim_eq_self ?_ (by rwa [List.nil_append] at hlast)
    exact fun c hc => hname.solid c (List.mem_of_mem_head? hc)
  unfold readStatement
  dsimp only
  rw [if_pos hfront, hdrop, Text.trim_space_append (Text.spaces_replicate 1), htrim,
    String.ofList_toList]

/-- So does the keyword of a package declaration, and there are no modifiers before it. -/
theorem toList_packageLine : ("package " ++ name ++ ";").toList =
    (declaration .empty "package" name).toList ++ [';'] := by
  rw [toList_declaration]
  simp only [String.toList_append]
  rfl

/-- **A package declaration names the package.** -/
theorem passes_package (hname : IsToken name.toList) {ws : List Char} (hws : Text.Spaces ws)
    (o : Outline) :
    Passes ⟨o, 0, ws⟩ ("package " ++ name ++ ";").toList
      ⟨{ o with package := some name }, 0, []⟩ := by
  have hword : IsToken "package".toList := by decide
  rw [toList_packageLine, ← List.append_nil (declaration .empty "package" name).toList]
  refine passes_upTo (isQuiet_declaration hword hname) (trim_declaration hword hname)
    Text.Spaces.nil hws (by decide) (by decide) fun p hp => ?_
  rw [Scan.next_semicolon_top, hp, readStatement_declaration hname]
  rfl

end Declaration

/-! ### Bodies -/

/-- How many braces are open after one more character. None can be closed that is not open. -/
def braceStep? (depth : Nat) (c : Char) : Option Nat :=
  if c = '\x7b' then some (depth + 1)
  else if c = '\x7d' then if depth = 0 then none else some (depth - 1)
  else some depth

/-- How many braces are open after a text that begins with some open. -/
def braceDepth? (depth : Nat) (text : List Char) : Option Nat :=
  text.foldlM braceStep? depth

/-- A body as code: its lines joined, each without its line comment. -/
def bodyCode (body : List String) : List Char :=
  withoutLineComments ("\n".intercalate body).toList

/-- **A balanced body** closes the braces that it opens, and none before it is opened. -/
def IsBalanced (body : List String) : Prop :=
  braceDepth? 0 (bodyCode body) = some 0

theorem braceDepth?_append (depth : Nat) (u v : List Char) :
    braceDepth? depth (u ++ v) = (braceDepth? depth u).bind (braceDepth? · v) :=
  List.foldlM_append

theorem braceDepth?_spaces {ws : List Char} (h : Text.Spaces ws) (depth : Nat) :
    braceDepth? depth ws = some depth := by
  induction ws with
  | nil => rfl
  | cons c ws ih =>
    have hc : c ∉ ['/', '\x7b', '\x7d', ';'] := isQuiet_of_spaces h c List.mem_cons_self
    simp only [List.mem_cons, List.not_mem_nil, or_false, not_or] at hc
    -- a blank is no brace, so it changes no depth
    have hstep : braceStep? depth c = some depth := by
      unfold braceStep?
      rw [if_neg hc.2.1, if_neg hc.2.2.1]
    unfold braceDepth?
    rw [List.foldlM_cons, hstep]
    exact ih fun d hd => h d (List.mem_cons_of_mem _ hd)

/-- In a body, a character counts if it is a brace. -/
theorem Scan.next_body (o : Outline) {depth depth' : Nat} {c : Char}
    (h : braceStep? depth c = some depth') :
    Scan.next ⟨o, depth + 2, []⟩ c = .ok ⟨o, depth' + 2, []⟩ := by
  unfold braceStep? at h
  split at h
  · next hc =>
    subst hc
    rw [← Option.some.inj h]
    rfl
  split at h
  · next hc =>
    subst hc
    split at h
    · contradiction
    · -- the brace that is closed was opened in the body, so the body goes on
      obtain ⟨d, rfl⟩ := Nat.exists_eq_succ_of_ne_zero ‹_›
      rw [← Option.some.inj h]
      rfl
  · -- the character is no brace, and below the first level nothing else is told apart
    next h1 h2 =>
    rw [← Option.some.inj h]
    unfold Scan.next
    rw [if_neg h1, if_neg h2]
    split
    · rfl
    · rw [if_neg (by dsimp only; omega)]

theorem foldlM_body (o : Outline) {depth depth' : Nat} {u : List Char}
    (h : braceDepth? depth u = some depth') :
    u.foldlM Scan.next ⟨o, depth + 2, []⟩ = .ok ⟨o, depth' + 2, []⟩ := by
  induction u generalizing depth with
  | nil =>
    rw [Option.some.inj h]
    rfl
  | cons c u ih =>
    unfold braceDepth? at h
    rw [List.foldlM_cons] at h
    obtain ⟨d, hstep, hrest⟩ := Option.bind_eq_some_iff.1 h
    rw [List.foldlM_cons, Scan.next_body o hstep]
    exact ih hrest

/-- **A line of a body does nothing but count its braces.** -/
theorem passes_bodyLine (o : Outline) {depth depth' : Nat} {line : List Char}
    (hopen : ¬ ['/', '*'] <:+: line)
    (h : braceDepth? depth (withoutLineComments line) = some depth') :
    Passes ⟨o, depth + 2, []⟩ (line ++ ['\n']) ⟨o, depth' + 2, []⟩ := by
  refine Passes.of_strip (withoutLineComments line ++ ['\n']) ?_ ?_
  · intro rest
    rw [List.append_assoc, List.singleton_append, stripFrom_code_append line hopen,
      List.append_assoc, List.singleton_append]
  · refine foldlM_body o ?_
    rw [braceDepth?_append, h]
    rfl

/-- Layout in a body does nothing. -/
theorem passes_bodySpaces (o : Outline) (depth : Nat) {ws : List Char} (hws : Text.Spaces ws) :
    Passes ⟨o, depth + 2, []⟩ ws ⟨o, depth + 2, []⟩ := by
  refine Passes.of_strip ws (stripFrom_code_append_of_not_mem ?_)
    (foldlM_body o (braceDepth?_spaces hws depth))
  exact fun hmem => isQuiet_of_spaces hws '/' hmem List.mem_cons_self

/-- The lines of a body, each behind some layout. -/
def bodyChars (indent : List Char) (body : List String) : List Char :=
  body.flatMap fun line => indent ++ (line.toList ++ ['\n'])

/-- **The lines of a body count the braces of its code.** -/
theorem passes_body (o : Outline) {indent : List Char} (hindent : Text.Spaces indent)
    {body : List String} (hopen : ∀ line ∈ body, ¬ ['/', '*'] <:+: line.toList)
    {depth depth' : Nat} (h : braceDepth? depth (bodyCode body) = some depth') :
    Passes ⟨o, depth + 2, []⟩ (bodyChars indent body) ⟨o, depth' + 2, []⟩ := by
  induction body generalizing depth with
  | nil =>
    obtain rfl : depth = depth' := Option.some.inj h
    exact Passes.refl _
  | cons line rest ih =>
    -- the depth behind this line is where the rest begins
    have hline := hopen line List.mem_cons_self
    have hrest : ∀ l ∈ rest, ¬ ['/', '*'] <:+: l.toList := fun l hl =>
      hopen l (List.mem_cons_of_mem _ hl)
    have hlines : bodyChars indent (line :: rest) =
        indent ++ (line.toList ++ ['\n']) ++ bodyChars indent rest := List.flatMap_cons
    rw [hlines]
    unfold bodyCode at h
    rw [String.toList_intercalate, List.map_cons] at h
    by_cases hempty : rest = []
    · -- the last line has the depth of the whole
      subst hempty
      rw [List.map_nil, List.intercalate_singleton] at h
      refine Passes.append ?_ (Passes.refl _)
      exact (passes_bodySpaces o depth hindent).append (passes_bodyLine o hline h)
    · -- the depth behind the line is taken over by the rest, which ends at that of the whole
      have hcode : withoutLineComments (line.toList ++ '\n' ::
          ['\n'].intercalate (rest.map String.toList)) =
          withoutLineComments line.toList ++ ('\n' :: bodyCode rest) := by
        unfold bodyCode
        rw [withoutLineComments_append, String.toList_intercalate]
        rfl
      rw [List.intercalate_cons_of_ne_nil (fun hnil => hempty (List.map_eq_nil_iff.1 hnil)),
        List.append_assoc] at h
      change braceDepth? depth (withoutLineComments (line.toList ++ '\n' ::
          ['\n'].intercalate (rest.map String.toList))) = some depth' at h
      rw [hcode, braceDepth?_append] at h
      obtain ⟨d, hd, hbehind⟩ := Option.bind_eq_some_iff.1 h
      refine Passes.append ?_ (ih hrest hbehind)
      exact (passes_bodySpaces o depth hindent).append (passes_bodyLine o hline hd)

end Stencil.Java.Outline
