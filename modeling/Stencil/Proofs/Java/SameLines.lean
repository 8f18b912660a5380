import Mathlib.Data.List.Basic
import Stencil.Proofs.Java.Agreement
import Stencil.Proofs.Text.NormalLines

/-!
# The strategies write the same lines

A page and a raw text differ in layout only: in indentation, in blank lines, and in the closing
brace of a method without statements. So both have the same normal lines, and these are those of
the template (`templateLines`), the statements of its methods included. Nothing is asked of the
statements: a line of a body may be blank, look like a declaration or hold line feeds, since either
text writes it behind some spaces and before a line feed (`normalLines_bodyChars`).

* `Member.normalLines_rawText` and `Member.normalLines_fragment` — a member, in either text;
* `normalLines_rawMembers` and `normalLines_memberChars` — all members;
* `Strategy.same_lines` — the source texts.
-/

namespace Stencil.Java

open Outline Text

/-! ### The lines of a template -/

/-- The lines of a member: a declaration, or a header, the statements and a brace. -/
def Member.lines : Member → List (List Char)
  | field f => [(fieldHead f ++ ";").toList]
  | method m =>
    (methodHead m ++ "()" ++ " \x7b").toList ::
      ((m.body.flatMap fun line => normalLines line.toList) ++ [['\x7d']])

theorem Member.lines_method (m : MethodTemplate) :
    (Member.method m).lines = (methodHead m ++ "()" ++ " \x7b").toList ::
      ((m.body.flatMap fun line => normalLines line.toList) ++ [['\x7d']]) := rfl

/-- The line that declares a package, if it is named. -/
def packageLines (package : String) : List (List Char) :=
  if package.isEmpty then [] else [("package " ++ package ++ ";").toList]

/-- **The lines of a template** for a request, read off without any source text. -/
def templateLines (t : ClassTemplate) (r : Request) : List (List Char) :=
  packageLines r.package ++
    (((ModifierSet.ofList t.modifiers).text ++ "class " ++ r.className ++ " \x7b").toList ::
      ((Member.ofTemplate t).flatMap Member.lines ++ [['\x7d']]))

/-! ### Single lines -/

theorem isPlain_declaration {ms : ModifierSet} {type name : String} {tail : List Char} {c : Char}
    (htype : IsToken type.toList) (hname : IsToken name.toList) (htail : '\n' ∉ tail)
    (hc : c ∉ ['\n', '\x7d']) :
    IsPlain ((declaration ms type name).toList ++ tail ++ [c]) := by
  rw [List.mem_cons, List.mem_singleton, not_or] at hc
  refine ⟨List.append_ne_nil_of_right_ne_nil _ (List.cons_ne_nil _ _), ?_, ?_, ?_⟩
  · have hdeclaration : '\n' ∉ (declaration ms type name).toList :=
      not_mem_declaration htype hname (by decide) (by decide)
    simp only [List.mem_append, List.mem_singleton, not_or]
    exact ⟨⟨hdeclaration, htail⟩, Ne.symm hc.1⟩
  · -- the first character is one of a modifier or of the type
    rintro d hd rfl
    rw [toList_declaration, List.append_assoc, List.append_assoc, List.append_assoc] at hd
    exact Bool.noConfusion (head_text_append htype ' ' hd)
  · -- the last character is the one that was put there, which is no brace
    rintro ⟨u, hu⟩
    have hlast := congrArg List.getLast? hu
    rw [List.getLast?_append, List.getLast?_concat] at hlast
    exact hc.2 (Option.some.inj hlast).symm

theorem isPlain_fieldLine {f : FieldTemplate}
    (h : IsToken f.type.toList ∧ IsToken f.name.toList) :
    IsPlain (fieldHead f ++ ";").toList := by
  have hsplit : (fieldHead f ++ ";").toList = (fieldHead f).toList ++ [] ++ [';'] := by
    rw [String.toList_append, List.append_nil]
    rfl
  rw [hsplit]
  exact isPlain_declaration h.1 h.2 List.not_mem_nil (by decide)

theorem toList_methodLine (m : MethodTemplate) :
    (methodHead m ++ "()" ++ " \x7b").toList =
      (methodHead m).toList ++ ['(', ')', ' '] ++ ['\x7b'] := by
  simp only [String.toList_append, List.append_assoc]
  rfl

theorem isPlain_methodLine {m : MethodTemplate}
    (h : IsToken m.returns.toList ∧ IsToken m.name.toList) :
    IsPlain (methodHead m ++ "()" ++ " \x7b").toList := by
  rw [toList_methodLine]
  exact isPlain_declaration h.1 h.2 (by decide) (by decide)

theorem isPlain_classLine {ms : ModifierSet} {name : String} (h : IsToken name.toList) :
    IsPlain (ms.text ++ "class " ++ name ++ " \x7b").toList := by
  have hclass : IsToken "class".toList := by decide
  rw [toList_classHeader]
  exact isPlain_declaration hclass h (by decide) (by decide)

theorem isPlain_packageLine {name : String} (h : IsToken name.toList) :
    IsPlain ("package " ++ name ++ ";").toList := by
  have hword : IsToken "package".toList := by decide
  rw [toList_packageLine, ← List.append_nil (declaration .empty "package" name).toList]
  exact isPlain_declaration hword h List.not_mem_nil (by decide)

theorem normalLines_closing : normalLines ['\x7d'] = [['\x7d']] := by decide

/-! ### Members -/

/-- **The lines of a body** are those of its statements, however far they are indented. -/
theorem normalLines_bodyChars (n : Nat) (body : List String) :
    normalLines (bodyChars (List.replicate n ' ') body) =
      body.flatMap fun line => normalLines line.toList := by
  have hwhole (line : String) (_ : line ∈ body) :
      WholeLines (List.replicate n ' ' ++ (line.toList ++ ['\n'])) := by
    rw [← List.append_assoc]
    exact wholeLines_append_lineFeed _
  unfold bodyChars
  rw [normalLines_flatMap hwhole]
  refine congrArg (List.flatMap · body) (funext fun line => ?_)
  rw [normalLines_replicate_append, normalLines_append_lineFeed, normalLines_nil, List.append_nil]

theorem wholeLines_bodyChars (indent : List Char) (body : List String) :
    WholeLines (bodyChars indent body) := by
  refine wholeLines_flatMap fun line _ => ?_
  rw [← List.append_assoc]
  exact wholeLines_append_lineFeed _

/-- A member whose names and types are tokens. -/
def Member.IsSpelt : Member → Prop
  | field f => IsToken f.type.toList ∧ IsToken f.name.toList
  | method m => IsToken m.returns.toList ∧ IsToken m.name.toList

/-- **A member of a raw text has its lines.** -/
theorem Member.normalLines_rawText {m : Member} (h : m.IsSpelt) :
    normalLines m.rawText.toList = m.lines := by
  cases m with
  | field f =>
    change normalLines (RawText.fieldText f).toList = _
    rw [RawText.toList_fieldText, normalLines_append_lineFeed, normalLines_nil, List.append_nil,
      (isPlain_fieldLine h).normalLines_eq]
    rfl
  | method m =>
    have hplain := isPlain_methodLine h
    change normalLines (RawText.methodText m).toList = _
    rw [RawText.toList_methodText, normalLines_append_lineFeed, normalLines_nil, List.append_nil,
      Member.lines_method]
    unfold RawText.gap
    cases m.body with
    | nil =>
      -- the closing brace stands on the line of the header
      rw [toList_methodLine] at hplain ⊢
      rw [List.append_assoc]
      exact normalLines_emptyBlock hplain
    | cons line rest =>
      change normalLines (_ ++ '\n' :: (bodyChars (List.replicate 2 ' ') _ ++ ['\x7d'])) = _
      rw [normalLines_append_lineFeed, hplain.normalLines_eq,
        (wholeLines_bodyChars _ _).normalLines_append, normalLines_bodyChars, normalLines_closing]
      rfl

/-- **A member of a page has its lines.** -/
theorem Member.normalLines_fragment {m : Member} (h : m.IsSpelt) :
    normalLines (fragmentChars m.fragment) = m.lines := by
  -- an indentation is none of what a normal line keeps
  have hindent : ∀ u, normalLines ([' ', ' '] ++ u) = normalLines u :=
    normalLines_replicate_append 2
  cases m with
  | field f =>
    rw [fragmentChars_field, hindent, normalLines_append_lineFeed, normalLines_nil,
      List.append_nil, (isPlain_fieldLine h).normalLines_eq]
    rfl
  | method m =>
    rw [fragmentChars_method, hindent, normalLines_append_lineFeed, normalLines_nil,
      List.append_nil, List.singleton_append, normalLines_append_lineFeed,
      (isPlain_methodLine h).normalLines_eq, (wholeLines_bodyChars _ _).normalLines_append, hindent,
      normalLines_closing]
    exact congrArg (fun lines => [_] ++ (lines ++ [['\x7d']])) (normalLines_bodyChars 4 m.body)

theorem wholeLines_fragmentChars (m : Member) : WholeLines (fragmentChars m.fragment) := by
  cases m with
  | field f =>
    rw [fragmentChars_field]
    exact Or.inr ((List.suffix_append _ _).trans (List.suffix_append _ _))
  | method m =>
    rw [fragmentChars_method]
    exact Or.inr ((List.suffix_append _ _).trans (List.suffix_append _ _))

theorem wholeLines_rawText (m : Member) : WholeLines m.rawText.toList := by
  cases m with
  | field f =>
    change WholeLines (RawText.fieldText f).toList
    rw [RawText.toList_fieldText]
    exact wholeLines_append_lineFeed _
  | method m =>
    change WholeLines (RawText.methodText m).toList
    rw [RawText.toList_methodText]
    exact wholeLines_append_lineFeed _

theorem wholeLines_memberChars (ms : List Member) :
    WholeLines (memberChars (ms.map Member.fragment)) := by
  induction ms with
  | nil => exact Or.inl rfl
  | cons m ms ih =>
    have hm := wholeLines_fragmentChars m
    cases ms with
    | nil => rwa [List.map_singleton, memberChars_singleton]
    | cons next others =>
      rw [List.map_cons, List.map_cons, memberChars_cons_cons]
      exact hm.append ((wholeLines_append_lineFeed []).append ih)

/-- The members of a page have their lines, and the blank lines between them are layout. -/
theorem normalLines_memberChars {ms : List Member} (h : ∀ m ∈ ms, m.IsSpelt) :
    normalLines (memberChars (ms.map Member.fragment)) = ms.flatMap Member.lines := by
  induction ms with
  | nil => exact normalLines_nil
  | cons m ms ih =>
    have hm := Member.normalLines_fragment (h m List.mem_cons_self)
    have hrest := ih fun m' hm' => h m' (List.mem_cons_of_mem _ hm')
    cases ms with
    | nil =>
      rw [List.map_singleton, memberChars_singleton, hm, List.flatMap_singleton]
    | cons next others =>
      -- the blank line between two members is no normal line
      rw [List.map_cons, List.map_cons, memberChars_cons_cons,
        (wholeLines_fragmentChars m).normalLines_append, hm, List.flatMap_cons,
        List.singleton_append, normalLines_cons_lineFeed]
      exact congrArg (m.lines ++ ·) hrest

theorem normalLines_rawMembers {ms : List Member} (h : ∀ m ∈ ms, m.IsSpelt) :
    normalLines (ms.flatMap fun m => m.rawText.toList) = ms.flatMap Member.lines := by
  rw [normalLines_flatMap fun m _ => wholeLines_rawText m]
  exact List.flatMap_congr fun m hm => Member.normalLines_rawText (h m hm)

/-! ### Source texts -/

theorem isSpelt_of_spelt {t : ClassTemplate} {r : Request} (h : Spelt t r) :
    ∀ m ∈ Member.ofTemplate t, m.IsSpelt := by
  intro member hmember
  rcases List.mem_append.1 hmember with hfield | hmethod
  · obtain ⟨f, hf, rfl⟩ := List.mem_map.1 hfield
    exact h.fields f hf
  · obtain ⟨m, hm, rfl⟩ := List.mem_map.1 hmethod
    exact h.methods m hm

/-- The package declaration, with line feeds behind it. -/
def packageText (package : String) (breaks : Nat) : List Char :=
  if package.isEmpty then []
  else ("package " ++ package ++ ";").toList ++ List.replicate (breaks + 1) '\n'

theorem wholeLines_packageText (package : String) (breaks : Nat) :
    WholeLines (packageText package breaks) := by
  unfold packageText
  split
  · exact Or.inl rfl
  · rw [List.replicate_succ', ← List.append_assoc]
    exact wholeLines_append_lineFeed _

theorem normalLines_packageText {package : String} (h : package = "" ∨ IsToken package.toList)
    (breaks : Nat) : normalLines (packageText package breaks) = packageLines package := by
  -- a line feed more only makes a blank line
  have hbreaks : normalLines (List.replicate breaks '\n') = [] := by
    induction breaks with
    | zero => exact normalLines_nil
    | succ n ih => rwa [List.replicate_succ, normalLines_cons_lineFeed]
  unfold packageText packageLines
  split
  · exact normalLines_nil
  · next hne =>
    have htoken : IsToken package.toList :=
      h.resolve_left fun hempty => hne (String.isEmpty_iff.2 hempty)
    rw [List.replicate_succ, normalLines_append_lineFeed,
      (isPlain_packageLine htoken).normalLines_eq, hbreaks, List.append_nil]

/-- **A source text has the lines of its template** if its members do. -/
theorem normalLines_of_parts {t : ClassTemplate} {r : Request} {source : String} {n : Nat}
    {members : List Char} (hspelt : Spelt t r)
    (hchars : source.toList = packageText r.package n ++ ([] ++
      (((ModifierSet.ofList t.modifiers).text ++ "class " ++ r.className ++ " \x7b").toList ++
        ('\n' :: (members ++ ['\x7d', '\n'])))))
    (hwhole : WholeLines members)
    (hmembers : normalLines members = (Member.ofTemplate t).flatMap Member.lines) :
    normalLines source.toList = templateLines t r := by
  have hclosing : normalLines ['\x7d', '\n'] = [['\x7d']] := by decide
  rw [hchars, (wholeLines_packageText _ _).normalLines_append,
    normalLines_packageText hspelt.package, List.nil_append, normalLines_append_lineFeed,
    (isPlain_classLine hspelt.className).normalLines_eq, hwhole.normalLines_append, hmembers,
    hclosing]
  rfl

end Stencil.Java

namespace Stencil.Strategy

open Java Text

/-- **The strategies write the same lines.** Whatever the structured strategy renders for a template
without documentation, the other one renders too, and both texts have the normal lines of the
template: each declaration and each statement, in the order of the template, and nothing else. -/
theorem same_lines {t : ClassTemplate} {r : Request} {a : Artifact}
    (h : structured.render t r = .ok a) (hdoc : t.doc = none ∨ t.doc = some "") :
    ∃ b, rawText.render t r = .ok b ∧
      normalLines a.content.toList = normalLines b.content.toList ∧
      normalLines b.content.toList = templateLines t r := by
  obtain ⟨hspelt, hchars⟩ := toList_content_of_render h
  have hmembers := isSpelt_of_spelt hspelt
  have hshown : t.shownDoc? = none := by
    unfold ClassTemplate.shownDoc?
    rcases hdoc with hdoc | hdoc <;> rw [hdoc] <;> rfl
  -- the page: blank lines around the declarations, and indentation
  have hpage : normalLines a.content.toList = templateLines t r := by
    rw [hshown] at hchars
    unfold classChars at hchars
    rw [← Member.map_fragment_ofTemplate] at hchars
    exact normalLines_of_parts (n := 1) hspelt hchars (wholeLines_memberChars _)
      (normalLines_memberChars hmembers)
  -- the raw text: no layout that is not needed
  have hraw : normalLines (RawText.text t r).toList = templateLines t r := by
    have hchars' := RawText.toList_text t r
    rw [hshown] at hchars'
    exact normalLines_of_parts (n := 0) hspelt hchars'
      (wholeLines_flatMap fun m _ => wholeLines_rawText m) (normalLines_rawMembers hmembers)
  exact ⟨_, rfl, hpage.trans hraw.symm, hraw⟩

/-- Statements that look like declarations, like layout and like comments. -/
def littered : ClassTemplate where
  className := "Person"
  doc := some ""
  modifiers := [.final]
  fields := [⟨"names", "String[]", [.privateAccess]⟩]
  methods :=
    [{ name := "run",
       body := ["", "  class Inner \x7b\x7d", "\x7d /* \"", "int x;\n\n    x = 1; // \x7b"] },
      { name := "stop" }]

theorem same_lines_littered :
    ∃ a b, structured.render littered ⟨"com.example", "Person"⟩ = .ok a ∧
      rawText.render littered ⟨"com.example", "Person"⟩ = .ok b ∧
      normalLines a.content.toList = normalLines b.content.toList ∧
      normalLines b.content.toList =
        ["package com.example;", "final class Person \x7b", "private String[] names;",
          "void run() \x7b", "class Inner \x7b", "\x7d", "\x7d /* \"", "int x;", "x = 1; // \x7b",
          "\x7d", "void stop() \x7b", "\x7d", "\x7d"].map String.toList := by
  obtain ⟨a, ha⟩ : ∃ a, structured.render littered ⟨"com.example", "Person"⟩ = .ok a :=
    exists_of_isOk (by decide +kernel)
  obtain ⟨b, hb, hsame, hlines⟩ := same_lines ha (Or.inr rfl)
  refine ⟨a, b, ha, hb, hsame, hlines.trans ?_⟩
  decide +kernel

end Stencil.Strategy
