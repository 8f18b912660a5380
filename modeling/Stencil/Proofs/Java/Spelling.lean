import Stencil.Java.Identifier
import Stencil.Java.TypeRef
import Stencil.Modifier
import Stencil.Proofs.Text.Pieces
import Stencil.Proofs.Text.Words

/-!
# Spelling of names and types

Whatever is accepted as a name, a qualified name or a type is a **token**: a text that is not empty
and holds only the characters of `isTokenChar`, which are those of identifiers, the dot and the
brackets. So no white space, brace, parenthesis, semicolon or slash is in it, and a scan for one
of these runs past a token (`IsToken.ne`).

* `isToken_of_fault?` — names;
* `isToken_of_qualifiedFault?` — packages and class names with a package;
* `TypeRef.isToken_text` and `TypeRef.text_of_parse?` — a type that was read is written as it was
  spelt, and if its class name is one, the spelling is a token;
* `isToken_keyword` — modifiers.
-/

namespace Stencil.Java

/-- The characters of names and types. -/
def isTokenChar (c : Char) : Bool :=
  isPart c || c == '.' || c == '[' || c == ']'

/-- **A token**: characters of names and types, at least one. -/
structure IsToken (w : List Char) : Prop where
  ne_nil : w ≠ []
  chars : ∀ c ∈ w, isTokenChar c = true

instance (w : List Char) : Decidable (IsToken w) :=
  decidable_of_iff (w ≠ [] ∧ w.all isTokenChar = true)
    ⟨fun h => ⟨h.1, List.all_eq_true.1 h.2⟩, fun h => ⟨h.ne_nil, List.all_eq_true.2 h.chars⟩⟩

/-! ### Characters that no token has -/

/-- Every white space, as a list. -/
def spaceChars : List Char :=
  ['\t', '\n', '\x0b', '\x0c', '\r', ' ', '\u0085', '\u00a0', '\u1680', '\u2000', '\u2001',
    '\u2002', '\u2003', '\u2004', '\u2005', '\u2006', '\u2007', '\u2008', '\u2009', '\u200a',
    '\u2028', '\u2029', '\u202f', '\u205f', '\u3000']

theorem mem_spaceChars {c : Char} (h : Text.isSpace c = true) : c ∈ spaceChars := by
  have hcode : c.toNat ∈ spaceChars.map Char.toNat := by
    simp only [Text.isSpace, Bool.or_eq_true, Bool.and_eq_true, decide_eq_true_eq,
      beq_iff_eq] at h
    simp only [spaceChars, List.map_cons, List.map_nil, List.mem_cons, List.not_mem_nil]
    simp only [Char.reduceToNat]
    omega
  obtain ⟨d, hd, hdc⟩ := List.mem_map.1 hcode
  rwa [← Char.toNat_inj.1 hdc]

theorem isSpace_of_isTokenChar {c : Char} (h : isTokenChar c = true) :
    Text.isSpace c = false := by
  have hall : (spaceChars.all fun d => !isTokenChar d) = true := by decide +kernel
  cases hc : Text.isSpace c with
  | false => rfl
  | true =>
    have hnot := List.all_eq_true.1 hall c (mem_spaceChars hc)
    rw [h] at hnot
    exact Bool.noConfusion hnot

/-- A token has no white space. -/
theorem IsToken.solid {w : List Char} (h : IsToken w) : Text.Solid w :=
  fun c hc => isSpace_of_isTokenChar (h.chars c hc)

/-- A character that names and types do not have is none of a token. -/
theorem IsToken.ne {w : List Char} (h : IsToken w) {c d : Char} (hc : c ∈ w)
    (hd : isTokenChar d = false) : c ≠ d := by
  rintro rfl
  rw [h.chars c hc] at hd
  contradiction

theorem IsToken.append {u v : List Char} (hu : IsToken u) (hv : v.all isTokenChar = true) :
    IsToken (u ++ v) where
  ne_nil := List.append_ne_nil_of_left_ne_nil hu.ne_nil v
  chars c hc := (List.mem_append.1 hc).elim (hu.chars c) (List.all_eq_true.1 hv c)

/-! ### Names -/

theorem isTokenChar_of_isPart {c : Char} (h : isPart c = true) : isTokenChar c = true := by
  unfold isTokenChar
  rw [h]
  rfl

/-- The characters of an identifier. -/
theorem isPart_of_fault? {name : String} (h : fault? name = none) :
    name.toList ≠ [] ∧ ∀ c ∈ name.toList, isPart c = true := by
  have hid : isIdentifier name = true := by rw [isIdentifier, h]; rfl
  cases hl : name.toList with
  | nil => rw [isIdentifier, fault?, hl] at hid; contradiction
  | cons first rest =>
    -- an identifier has characters to start with and to go on with, and is no reserved word
    rw [isIdentifier_of_toList hl, Bool.and_eq_true, Bool.and_eq_true] at hid
    obtain ⟨⟨hstart, hrest⟩, -⟩ := hid
    refine ⟨List.cons_ne_nil _ _, fun c hc => ?_⟩
    rcases List.mem_cons.1 hc with rfl | hc
    · exact isPart_of_isStart hstart
    · exact List.all_eq_true.1 hrest c hc

/-- An identifier is a token. -/
theorem isToken_of_fault? {name : String} (h : fault? name = none) : IsToken name.toList where
  ne_nil := (isPart_of_fault? h).1
  chars c hc := isTokenChar_of_isPart ((isPart_of_fault? h).2 c hc)

/-- The segments of a name without a fault are identifiers. -/
theorem fault?_of_mem_segments {name segment : String} (h : qualifiedFault? name = none)
    (hs : segment ∈ segments name) : fault? segment = none := by
  have hnone := List.findSome?_eq_none_iff.1 h segment hs
  rwa [Option.map_eq_none_iff] at hnone

/-- The characters of a qualified name are those of identifiers, and dots. -/
theorem isPart_or_dot_of_qualifiedFault? {name : String} (h : qualifiedFault? name = none)
    {c : Char} (hc : c ∈ name.toList) : isPart c = true ∨ c = '.' := by
  have hsplit : c = '.' ∨ ∃ piece ∈ name.toList.splitOn '.', c ∈ piece :=
    Text.mem_splitOn_or_eq hc
  rcases hsplit with hdot | ⟨piece, hpiece, hcp⟩
  · exact Or.inr hdot
  · have hfault : fault? (String.ofList piece) = none :=
      fault?_of_mem_segments h (List.mem_map_of_mem hpiece)
    refine Or.inl ((isPart_of_fault? hfault).2 c ?_)
    rwa [String.toList_ofList]

/-- A qualified name is a token. -/
theorem isToken_of_qualifiedFault? {name : String} (h : qualifiedFault? name = none) :
    IsToken name.toList where
  ne_nil := by
    -- the only segment of the empty text would be empty
    intro hnil
    have hempty : fault? "" = none := by
      refine fault?_of_mem_segments h ?_
      rw [segments, hnil]
      exact List.mem_cons_self
    exact absurd hempty (by decide)
  chars := by
    intro c hc
    -- a character of a qualified name is one of an identifier or a dot between two of them
    rcases isPart_or_dot_of_qualifiedFault? h hc with hpart | rfl
    · exact isTokenChar_of_isPart hpart
    · rfl

/-! ### Types -/

namespace TypeRef

/-- A word that was read as a type is written as it was spelt. -/
theorem text_of_ofWord? {word : String} {t : TypeRef} (h : ofWord? word = some t) :
    t.text = word := by
  unfold ofWord? at h
  split at h
  · contradiction
  split at h
  · -- `void` is tried first, then the keywords, and what is left is a name as it stands
    next hv =>
    cases h
    exact (beq_iff_eq.1 hv).symm
  split at h
  · next p hp =>
    cases h
    unfold Primitive.ofKeyword? at hp
    have hfound := List.find?_some hp
    exact beq_iff_eq.1 hfound
  · cases h
    rfl

theorem text_of_arrayOf? {e t : TypeRef} (h : arrayOf? e = some t) :
    t.text = e.text ++ "[]" ∧ t.innermost = e.innermost := by
  cases e <;> cases h <;> exact ⟨rfl, rfl⟩

theorem text_of_parseReversed? {s : List Char} {t : TypeRef} (h : parseReversed? s = some t) :
    t.text.toList = s.reverse := by
  fun_induction parseReversed? s generalizing t with
  | case1 rest ih =>
    obtain ⟨e, he, ht⟩ := Option.bind_eq_some_iff.1 h
    rw [(text_of_arrayOf? ht).1, String.toList_append, ih he]
    simp
  | case2 word => rw [text_of_ofWord? h, String.toList_ofList]

/-- **A type is written as it was spelt.** -/
theorem text_of_parse? {spelling : String} {t : TypeRef} (h : parse? spelling = some t) :
    t.text = spelling := by
  rw [← String.toList_inj, text_of_parseReversed? h, List.reverse_reverse]

/-- A type whose class name, if it has one, is a token, is written as a token. -/
theorem isToken_text {t : TypeRef}
    (h : ∀ name, t.innermost = .named name → IsToken name.toList) : IsToken t.text.toList := by
  induction t with
  | primitive p => cases p <;> decide
  | array element ih =>
    rw [text, String.toList_append]
    exact (ih h).append (by decide)
  | named name => exact h name rfl
  | void => decide

end TypeRef

/-! ### Modifiers -/

theorem isToken_keyword (m : Modifier) : IsToken m.keyword.toList := by
  cases m <;> decide

end Stencil.Java
