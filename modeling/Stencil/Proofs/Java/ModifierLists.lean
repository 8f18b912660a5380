import Stencil.Proofs.Java.Agreement
import Stencil.Proofs.Text.LineHeads

/-!
# Lists of modifiers as sets

The modifiers of a class or of a member are listed, but only which of them are listed counts: a
template whose lists have the same members (`ClassTemplate.Alike`) is rendered in the same way by
either strategy, or refused for the same reason. Both strategies take the set of a list before they
write anything, and refuse no template for its modifiers, so this goes along the template.

What is written for a list is read back as just the modifiers that are listed, once each and in
canonical order (`ReadsAs`), and it is what each declaration begins with in the text of either
strategy (`heads_rawText`, `heads_page`). In a text that the structured strategy renders too, what
comes behind it begins with no modifier (`leadingModifiers_bare`), so nothing else can be taken for
one. `Strategy.modifiers_act_as_sets` puts this together.
-/

namespace Stencil

/-! ### Templates that list the same modifiers -/

/-- Lists of modifiers with the same members, however they are ordered or repeated. -/
def SameModifiers (ms ns : List Modifier) : Prop :=
  ∀ m, m ∈ ms ↔ m ∈ ns

theorem SameModifiers.ofList_eq {ms ns : List Modifier} (h : SameModifiers ms ns) :
    ModifierSet.ofList ms = ModifierSet.ofList ns :=
  ModifierSet.ofList_congr h

/-- Fields that differ at most in how their modifiers are listed. -/
structure FieldTemplate.Alike (f g : FieldTemplate) : Prop where
  name : f.name = g.name
  type : f.type = g.type
  modifiers : SameModifiers f.modifiers g.modifiers

/-- Methods that differ at most in how their modifiers are listed. -/
structure MethodTemplate.Alike (m n : MethodTemplate) : Prop where
  name : m.name = n.name
  returns : m.returns = n.returns
  body : m.body = n.body
  modifiers : SameModifiers m.modifiers n.modifiers

/-- **Templates that differ at most in how modifiers are listed**, at any place. -/
structure ClassTemplate.Alike (t u : ClassTemplate) : Prop where
  className : t.className = u.className
  doc : t.doc = u.doc
  modifiers : SameModifiers t.modifiers u.modifiers
  fields : List.Forall₂ FieldTemplate.Alike t.fields u.fields
  methods : List.Forall₂ MethodTemplate.Alike t.methods u.methods

/-- Lists that are related item by item have the same image if related items have. -/
theorem map_eq_of_forall₂ {α β : Type} {related : α → α → Prop} {f : α → β} {l l' : List α}
    (hf : ∀ a b, related a b → f a = f b) (h : List.Forall₂ related l l') : l.map f = l'.map f := by
  have hequal : List.Forall₂ (· = ·) (l.map f) (l'.map f) :=
    List.forall₂_map_left_iff.2 (List.forall₂_map_right_iff.2 (h.imp hf))
  rwa [List.forall₂_eq_eq_eq] at hequal

theorem mapM_eq_of_forall₂ {α β ε : Type} {related : α → α → Prop} {f : α → Except ε β}
    {l l' : List α} (hf : ∀ a b, related a b → f a = f b) (h : List.Forall₂ related l l') :
    l.mapM f = l'.mapM f := by
  have hmap := map_eq_of_forall₂ hf h
  -- the steps are those of the image, which is made first
  rw [← Function.id_comp f, ← List.mapM_map, ← List.mapM_map, hmap]

namespace Java

theorem fieldOf_eq_of_alike {artifact : String} {f g : FieldTemplate} (h : f.Alike g) :
    fieldOf artifact f = fieldOf artifact g := by
  unfold fieldOf
  rw [h.name, h.type, h.modifiers.ofList_eq]

theorem methodOf_eq_of_alike {artifact : String} {m n : MethodTemplate} (h : m.Alike n) :
    methodOf artifact m = methodOf artifact n := by
  unfold methodOf
  rw [h.name, h.returns, h.body, h.modifiers.ofList_eq]

/-- **A class is built alike**, or refused alike. -/
theorem buildClass_eq_of_alike {t u : ClassTemplate} (h : t.Alike u) (r : Request) :
    buildClass t r = buildClass u r := by
  have hfields : t.fields.mapM (fieldOf r.qualifiedName) =
      u.fields.mapM (fieldOf r.qualifiedName) :=
    mapM_eq_of_forall₂ (fun _ _ hf => fieldOf_eq_of_alike hf) h.fields
  have hmethods : t.methods.mapM (methodOf r.qualifiedName) =
      u.methods.mapM (methodOf r.qualifiedName) :=
    mapM_eq_of_forall₂ (fun _ _ hm => methodOf_eq_of_alike hm) h.methods
  unfold buildClass ClassTemplate.shownDoc?
  dsimp only
  rw [h.doc, h.modifiers.ofList_eq, hfields, hmethods]

theorem fieldText_eq_of_alike {f g : FieldTemplate} (h : f.Alike g) :
    RawText.fieldText f = RawText.fieldText g := by
  unfold RawText.fieldText RawText.modifiersText
  rw [h.name, h.type, h.modifiers.ofList_eq]

theorem methodText_eq_of_alike {m n : MethodTemplate} (h : m.Alike n) :
    RawText.methodText m = RawText.methodText n := by
  unfold RawText.methodText RawText.modifiersText
  rw [h.name, h.returns, h.body, h.modifiers.ofList_eq]

theorem rawText_eq_of_alike {t u : ClassTemplate} (h : t.Alike u) (r : Request) :
    RawText.text t r = RawText.text u r := by
  have hfields : t.fields.map RawText.fieldText = u.fields.map RawText.fieldText :=
    map_eq_of_forall₂ (fun _ _ hf => fieldText_eq_of_alike hf) h.fields
  have hmethods : t.methods.map RawText.methodText = u.methods.map RawText.methodText :=
    map_eq_of_forall₂ (fun _ _ hm => methodText_eq_of_alike hm) h.methods
  unfold RawText.text RawText.modifiersText ClassTemplate.shownDoc?
  rw [h.doc, h.modifiers.ofList_eq, hfields, hmethods]

end Java

theorem Strategy.render_eq_of_alike {t u : ClassTemplate} (h : t.Alike u) (s : Strategy)
    (r : Request) : s.render t r = s.render u r := by
  cases s with
  | structured =>
    unfold Strategy.render
    rw [Java.buildClass_eq_of_alike h]
  | rawText =>
    unfold Strategy.render
    rw [Java.rawText_eq_of_alike h]

namespace Java

open Outline Text

/-! ### Modifiers as read -/

/-- The modifier that a word is read as. -/
def modifierOf? (word : List Char) : Option Modifier :=
  Modifier.ofKeyword? (String.ofList word)

/-- The words that a text begins with and that are read as modifiers. -/
def leadingModifiers (text : List Char) : List (List Char) :=
  (Text.words text).takeWhile fun word => (modifierOf? word).isSome

/-- **Words that are read as a list of modifiers**: each is one of them, and they are the modifiers
of the list, once each and in canonical order. -/
def ReadsAs (words : List (List Char)) (ms : List Modifier) : Prop :=
  ∃ shown : List Modifier, words.map modifierOf? = shown.map some ∧
    shown.Pairwise (·.rank < ·.rank) ∧ SameModifiers shown ms

theorem map_modifierOf?_keywords (ms : ModifierSet) :
    ((keywords ms).map String.toList).map modifierOf? = ms.toList.map some := by
  unfold keywords
  rw [List.map_map, List.map_map]
  refine List.map_congr_left fun m _ => ?_
  unfold modifierOf?
  rw [Function.comp_apply, Function.comp_apply, String.ofList_toList, Modifier.ofKeyword?_keyword]

theorem readsAs_keywords (ms : List Modifier) :
    ReadsAs ((keywords (.ofList ms)).map String.toList) ms :=
  ⟨(ModifierSet.ofList ms).toList, map_modifierOf?_keywords _, (ModifierSet.ofList ms).sorted,
    fun _ => ModifierSet.mem_toList_ofList⟩

/-- **What is written for a list is read as the list.** -/
theorem readsAs_modifiersText (ms : List Modifier) :
    ReadsAs (Text.words (RawText.modifiersText ms).toList) ms := by
  have hwords := words_text_append (ModifierSet.ofList ms) []
  rw [List.append_nil, Text.words_nil, List.append_nil] at hwords
  unfold RawText.modifiersText
  rw [hwords]
  exact readsAs_keywords ms

/-! ### Declarations -/

/-- A declaration: the modifiers that are listed for it, and what is declared. -/
structure Declared where
  modifiers : List Modifier
  bare : String

/-- A declaration behind its modifiers. -/
def Declared.text (d : Declared) : String :=
  RawText.modifiersText d.modifiers ++ d.bare

/-- What a member declares: a field, or the header of a method. -/
def Member.declared : Member → Declared
  | field f => ⟨f.modifiers, f.type ++ " " ++ f.name ++ ";"⟩
  | method m => ⟨m.modifiers, m.returns ++ " " ++ m.name ++ "()"⟩

/-- **The declarations of a template** for a request: the class, and then its members. -/
def declarations (t : ClassTemplate) (r : Request) : List Declared :=
  ⟨t.modifiers, "class " ++ r.className ++ " \x7b"⟩ :: (Member.ofTemplate t).map Member.declared

theorem text_declared_field (f : FieldTemplate) :
    (Member.field f).declared.text = fieldHead f ++ ";" := by
  unfold Member.declared Declared.text fieldHead declaration RawText.modifiersText
  simp only [String.append_assoc]

/-- The header of a method is what it declares, and the brace of its body. -/
theorem toList_methodHead (m : MethodTemplate) :
    (methodHead m ++ "()" ++ " \x7b").toList =
      (Member.method m).declared.text.toList ++ " \x7b".toList := by
  unfold Member.declared Declared.text methodHead declaration RawText.modifiersText
  simp only [String.toList_append, List.append_assoc]

theorem text_declared_class (ms : List Modifier) (name : String) :
    (Declared.mk ms ("class " ++ name ++ " \x7b")).text =
      (ModifierSet.ofList ms).text ++ "class " ++ name ++ " \x7b" := by
  unfold Declared.text RawText.modifiersText
  simp only [String.append_assoc]

/-! ### Members at the heads of lines -/

/-- A member of a raw text stands at the head of its first line. -/
theorem heads_rawMember (m : Member) :
    ∃ lines, m.rawText.toList = lines ++ ['\n'] ∧
      HeadsLines [m.declared.text.toList] ('\n' :: lines) := by
  -- a field is the whole of its line, and a method has its header at the head of several
  cases m with
  | field f =>
    refine ⟨_, RawText.toList_fieldText f, ?_⟩
    rw [text_declared_field]
    exact .lone 0 _
  | method m =>
    refine ⟨_, RawText.toList_methodText m, ?_⟩
    rw [toList_methodHead, List.append_assoc]
    exact .line 0 _ _

/-- A member of a page stands at the head of its first line, behind the indentation. -/
theorem heads_fragment (m : Member) :
    ∃ lines, fragmentChars m.fragment = lines ++ ['\n'] ∧
      HeadsLines [m.declared.text.toList] ('\n' :: lines) := by
  cases m with
  | field f =>
    have hlines := fragmentChars_field f
    rw [← List.append_assoc] at hlines
    refine ⟨_, hlines, ?_⟩
    rw [text_declared_field]
    exact .lone 2 _
  | method m =>
    have hlines := fragmentChars_method m
    rw [← List.append_assoc] at hlines
    refine ⟨_, hlines, ?_⟩
    rw [toList_methodHead, List.append_assoc]
    exact .line 2 _ _

/-- The members of a page, with the blank lines between them. -/
theorem heads_memberChars (ms : List Member) (behind : List Char) :
    HeadsLines (ms.map fun m => m.declared.text.toList)
      ('\n' :: (memberChars (ms.map Member.fragment) ++ behind)) := by
  induction ms with
  | nil => exact .nil _
  | cons m ms ih =>
    -- the blank line between two members heads nothing
    obtain ⟨lines, hlines, hm⟩ := heads_fragment m
    cases ms with
    | nil =>
      show HeadsLines [m.declared.text.toList] ('\n' :: (memberChars [m.fragment] ++ behind))
      rw [memberChars_singleton, hlines, List.append_assoc]
      exact hm.cons_lines (.nil _)
    | cons next others =>
      show HeadsLines (_ :: (next :: others).map _)
        ('\n' :: (memberChars (m.fragment :: next.fragment :: others.map _) ++ behind))
      rw [memberChars_cons_cons, hlines, List.append_assoc, List.append_assoc, List.append_assoc]
      exact hm.cons_lines (ih.append_left ['\n'])

/-! ### Source texts -/

/-- **A source text has its declarations at the heads of lines** if its members are there. -/
theorem heads_of_parts {t : ClassTemplate} {r : Request} {source : String}
    {package doc members : List Char} (hpackage : WholeLines package) (hdoc : WholeLines doc)
    (hchars : source.toList = package ++ (doc ++
      (((ModifierSet.ofList t.modifiers).text ++ "class " ++ r.className ++ " \x7b").toList ++
        ('\n' :: (members ++ ['\x7d', '\n'])))))
    (hmembers : HeadsLines ((Member.ofTemplate t).map fun m => m.declared.text.toList)
      ('\n' :: (members ++ ['\x7d', '\n']))) :
    HeadsLines ((declarations t r).map (·.text.toList)) ('\n' :: source.toList) := by
  rw [hchars, ← text_declared_class]
  refine .behind_wholeLines hpackage (.behind_wholeLines hdoc ?_)
  -- the class is declared in the line behind the package and the doc, which are whole lines
  unfold declarations
  rw [List.map_cons, List.map_map]
  refine HeadsLines.cons_lines ?_ hmembers
  exact .lone 0 _

theorem heads_rawText (t : ClassTemplate) (r : Request) :
    HeadsLines ((declarations t r).map (·.text.toList)) ('\n' :: (RawText.text t r).toList) := by
  refine heads_of_parts ?_ ?_ (RawText.toList_text t r)
    (.flatMap (fun m _ => heads_rawMember m) _)
  · split
    · exact Or.inl rfl
    · exact wholeLines_append_lineFeed _
  · cases t.shownDoc? with
    | none => exact Or.inl rfl
    | some doc =>
      -- the raw doc is written in one piece, with a line feed behind it
      have hdoc : (RawText.docText doc).toList =
          ("/** " ++ RawText.starredText doc ++ " */").toList ++ ['\n'] := by
        unfold RawText.docText
        simp only [String.toList_append, List.append_assoc]
        rfl
      show WholeLines (RawText.docText doc).toList
      rw [hdoc]
      exact wholeLines_append_lineFeed _

theorem heads_page {t : ClassTemplate} {r : Request} {a : Artifact}
    (h : Strategy.structured.render t r = .ok a) :
    HeadsLines ((declarations t r).map (·.text.toList)) ('\n' :: a.content.toList) := by
  obtain ⟨-, hchars⟩ := toList_content_of_render h
  unfold classChars at hchars
  rw [← Member.map_fragment_ofTemplate] at hchars
  refine heads_of_parts ?_ ?_ hchars (heads_memberChars _ _)
  · -- the package and the doc of a page are whole lines, or nothing
    unfold packageChars
    split
    · exact Or.inl rfl
    · exact Or.inr ⟨_, List.append_assoc _ ['\n'] ['\n']⟩
  · unfold docPart
    cases t.shownDoc? with
    | none => exact Or.inl rfl
    | some doc => exact Or.inr ⟨_, List.append_assoc _ " */".toList ['\n']⟩

/-! ### What is declared begins with no modifier -/

theorem keyword_of_modifierOf? {word : List Char} {m : Modifier} (h : modifierOf? word = some m) :
    String.ofList word = m.keyword := by
  have hfound := List.find?_some h
  exact (eq_of_beq hfound).symm

/-- No modifier is a type. -/
theorem readValueType_keyword_ne_ok (m : Modifier) (t : TypeRef) :
    readValueType m.keyword ≠ .ok t := by
  have hrefused : error? (readValueType m.keyword) ≠ none := by
    cases m <;> decide +kernel
  intro hread
  exact hrefused (by rw [hread]; rfl)

theorem modifierOf?_of_valueType {artifact spelling : String} {t : TypeRef}
    (h : valueType artifact spelling = .ok t) : modifierOf? spelling.toList = none := by
  refine Option.eq_none_iff_forall_ne_some.2 fun m hm => ?_
  have hkeyword := keyword_of_modifierOf? hm
  rw [String.ofList_toList] at hkeyword
  rw [hkeyword] at h
  exact readValueType_keyword_ne_ok m t (readValueType_of_valueType h)

theorem modifierOf?_of_resultType {artifact spelling : String} {t : TypeRef}
    (h : resultType artifact spelling = .ok t) : modifierOf? spelling.toList = none := by
  unfold resultType at h
  split at h
  · next hvoid =>
    subst hvoid
    decide
  · exact modifierOf?_of_valueType h

/-- A text that begins with a token other than a modifier begins with no modifier. -/
theorem leadingModifiers_token {token : List Char} (htoken : IsToken token)
    (hnone : modifierOf? token = none) (behind : List Char) :
    leadingModifiers (token ++ ' ' :: behind) = [] := by
  have hwords : Text.words (token ++ ' ' :: behind) = token :: Text.words behind := by
    rw [Text.words_append_space (by rfl), Text.words_solid htoken.ne_nil htoken.solid]
    rfl
  unfold leadingModifiers
  rw [hwords]
  exact List.takeWhile_cons_of_neg (by rw [hnone]; exact Bool.false_ne_true)

theorem toList_bare (first second ending : String) :
    (first ++ " " ++ second ++ ending).toList =
      first.toList ++ ' ' :: (second.toList ++ ending.toList) := by
  simp only [String.toList_append, List.append_assoc]
  rfl

/-- **What a class that was built declares begins with no modifier**, at any place: it begins with a
keyword or with a type, which are none. -/
theorem leadingModifiers_bare {t : ClassTemplate} {r : Request} {c : ClassModel}
    (h : buildClass t r = .ok c) : ∀ d ∈ declarations t r, leadingModifiers d.bare.toList = [] := by
  obtain ⟨-, -, fields, methods, hfields, hmethods, -⟩ := buildClass_ok h
  have hspelt := spelt_of_buildClass h
  intro d hd
  rcases List.mem_cons.1 hd with rfl | hd
  · have hclass : IsToken "class".toList := by decide
    show leadingModifiers ("class" ++ " " ++ r.className ++ " \x7b").toList = []
    rw [toList_bare]
    exact leadingModifiers_token hclass (by decide) _
  · obtain ⟨m, hm, rfl⟩ := List.mem_map.1 hd
    -- a type or a result that is accepted is no modifier, so nothing leads behind the prefix
    rcases List.mem_append.1 hm with hm | hm
    · obtain ⟨f, hf, rfl⟩ := List.mem_map.1 hm
      obtain ⟨field, hfield⟩ := forall_of_mapM_ok hfields f hf
      obtain ⟨⟨⟩, -, hfield⟩ := bind_ok hfield
      obtain ⟨type, htype, -⟩ := bind_ok hfield
      show leadingModifiers (f.type ++ " " ++ f.name ++ ";").toList = []
      rw [toList_bare]
      exact leadingModifiers_token (hspelt.fields f hf).1 (modifierOf?_of_valueType htype) _
    · obtain ⟨n, hn, rfl⟩ := List.mem_map.1 hm
      obtain ⟨method, hmethod⟩ := forall_of_mapM_ok hmethods n hn
      obtain ⟨⟨⟩, -, hmethod⟩ := bind_ok hmethod
      obtain ⟨returns, hreturns, -⟩ := bind_ok hmethod
      show leadingModifiers (n.returns ++ " " ++ n.name ++ "()").toList = []
      rw [toList_bare]
      exact leadingModifiers_token (hspelt.methods n hn).1 (modifierOf?_of_resultType hreturns) _

/-- **The modifiers that a declaration begins with**, in a class that was built: those that are
listed for it. -/
theorem readsAs_leadingModifiers {t : ClassTemplate} {r : Request} {c : ClassModel}
    (h : buildClass t r = .ok c) {d : Declared} (hd : d ∈ declarations t r) :
    ReadsAs (leadingModifiers d.text.toList) d.modifiers := by
  let shown := (keywords (.ofList d.modifiers)).map String.toList
  -- each word of the prefix is the keyword of a modifier
  have hshown : ∀ word ∈ shown, (modifierOf? word).isSome = true := by
    intro word hword
    have hread : modifierOf? word ∈ (ModifierSet.ofList d.modifiers).toList.map some := by
      rw [← map_modifierOf?_keywords]
      exact List.mem_map_of_mem hword
    obtain ⟨m, -, hm⟩ := List.mem_map.1 hread
    rw [← hm]
    rfl
  have hwords : Text.words d.text.toList = shown ++ Text.words d.bare.toList := by
    unfold Declared.text RawText.modifiersText
    rw [String.toList_append, words_text_append]
  have hleading : leadingModifiers d.text.toList = shown := calc
    leadingModifiers d.text.toList
        = (shown ++ Text.words d.bare.toList).takeWhile fun word => (modifierOf? word).isSome := by
          unfold leadingModifiers
          rw [hwords]
    _ = shown ++ leadingModifiers d.bare.toList := List.takeWhile_append_of_pos hshown
    _ = shown := by rw [leadingModifiers_bare h d hd, List.append_nil]
  rw [hleading]
  exact readsAs_keywords d.modifiers

end Java

/-! ### Both strategies -/

open Java Text in
/-- **Lists of modifiers act as sets.** Templates that differ at most in how modifiers are listed
are rendered alike by either strategy, or refused alike. In what is rendered, the declarations
stand at the heads of lines, each behind the same modifiers for either strategy, and these are read
back as those that are listed for it, once each and in canonical order. Once the structured
strategy renders the template, they are all the modifiers that a declaration begins with. -/
theorem Strategy.modifiers_act_as_sets (t : ClassTemplate) (r : Request) :
    (∀ u : ClassTemplate, t.Alike u → ∀ s : Strategy, s.render t r = s.render u r) ∧
    (∀ (s : Strategy) (a : Artifact), s.render t r = .ok a →
      HeadsLines ((declarations t r).map (·.text.toList)) ('\n' :: a.content.toList)) ∧
    (∀ d ∈ declarations t r,
      ReadsAs (Text.words (RawText.modifiersText d.modifiers).toList) d.modifiers) ∧
    ∀ a : Artifact, structured.render t r = .ok a → ∀ d ∈ declarations t r,
      ReadsAs (leadingModifiers d.text.toList) d.modifiers := by
  refine ⟨fun u hu s => render_eq_of_alike hu s r, fun s a ha => ?_,
    fun d _ => readsAs_modifiersText d.modifiers, fun a ha d hd => ?_⟩
  · cases s with
    | structured => exact heads_page ha
    | rawText =>
      cases ha
      exact heads_rawText t r
  · -- an artifact was rendered, so the class was built and its names and types are tokens
    obtain ⟨c, hc, -⟩ := exists_buildClass_of_render ha
    exact readsAs_leadingModifiers hc hd

open Java Text in
theorem Strategy.modifiers_act_as_sets_shuffled :
    let listed (ms ns : List Modifier) : ClassTemplate :=
      { className := "Lock", modifiers := ms, fields := [⟨"id", "int", ns⟩] }
    let t := listed [.final, .publicAccess, .final] [.static, .privateAccess]
    let u := listed [.publicAccess, .final] [.privateAccess, .static, .static]
    t.Alike u ∧ ∃ a, structured.render t ⟨"", "Lock"⟩ = .ok a ∧
      structured.render u ⟨"", "Lock"⟩ = .ok a ∧
      HeadsLines ["public final class Lock \x7b".toList, "private static int id;".toList]
        ('\n' :: a.content.toList) ∧
      ReadsAs ["private".toList, "static".toList] [.static, .privateAccess] := by
  intro listed t u
  have halike : t.Alike u := by
    refine ⟨rfl, rfl, ?_, .cons ⟨rfl, rfl, ?_⟩ .nil, .nil⟩ <;>
      exact fun m => by cases m <;> decide
  obtain ⟨c, hc⟩ : ∃ c, buildClass t ⟨"", "Lock"⟩ = .ok c := exists_of_isOk (by decide +kernel)
  have ha := render_structured_of_ok hc
  obtain ⟨hequal, hheads, -, hread⟩ := Strategy.modifiers_act_as_sets t ⟨"", "Lock"⟩
  refine ⟨halike, _, ha, hequal u halike structured ▸ ha, hheads structured _ ha, ?_⟩
  exact hread _ ha ⟨[.static, .privateAccess], "int id;"⟩ (.tail _ (.head _))

end Stencil
