import Stencil.Java.ClassModel.Build
import Stencil.Proofs.Java.TypeReading

/-!
# The grammar of names and of types

What the checks of a class accept is told here without them. An identifier is a start character with
part characters behind it that is not reserved (`IsName`), a qualified name is identifiers with dots
between them (`IsQualifiedName`), and the type of a value is spelt by a keyword or a qualified name
with pairs of brackets behind it (`IsValueType`). Each check accepts just these texts:
`fault?_eq_none_iff`, `qualifiedFault?_eq_none_iff`, `exists_readValueType_iff`.

What a check says of all other texts is told by `HasFault` and `HasTypeProblem`. The checks stop at
the first thing that is wrong, so both say which one it is.
-/

namespace Stencil.Java

/-! ### Identifiers -/

/-- **An identifier**: a start character, part characters behind it, and no reserved word. -/
structure IsName (name : String) : Prop where
  spelt : ∃ first rest, name.toList = first :: rest ∧ isStart first = true ∧
    ∀ c ∈ rest, isPart c = true
  free : name ∉ reservedWords

/-- **What keeps a text from being an identifier.** -/
inductive HasFault : String → NameFault → Prop
  | empty : HasFault "" .empty
  | badStart {name : String} {first : Char} {rest : List Char} (h : name.toList = first :: rest)
      (hfirst : isStart first = false) : HasFault name .badStart
  | badCharacter {name : String} {first c : Char} {rest : List Char}
      (h : name.toList = first :: rest) (hfirst : isStart first = true) (hc : c ∈ rest)
      (hpart : isPart c = false) : HasFault name .badCharacter
  | reserved {name : String} (h : name ∈ reservedWords) : HasFault name .reserved

theorem isReserved_iff {name : String} : isReserved name = true ↔ name ∈ reservedWords :=
  List.contains_iff_mem

/-- The reserved words are spelt as identifiers are. -/
theorem spelt_of_reserved {word : String} (h : word ∈ reservedWords) :
    ∃ first rest, word.toList = first :: rest ∧ isStart first = true ∧ rest.all isPart = true := by
  have hall : (reservedWords.all fun w =>
      w.toList.head?.any isStart && w.toList.tail.all isPart) = true := by decide +kernel
  obtain ⟨hfirst, hrest⟩ := (Bool.and_eq_true _ _).mp (List.all_eq_true.1 hall word h)
  cases hl : word.toList with
  | nil =>
    rw [hl] at hfirst
    contradiction
  | cons first rest =>
    rw [hl] at hfirst hrest
    exact ⟨first, rest, rfl, hfirst, hrest⟩

theorem fault?_eq_some_iff {name : String} {fault : NameFault} :
    fault? name = some fault ↔ HasFault name fault := by
  unfold fault?
  constructor
  · intro h
    split at h
    · next hl =>
      cases h
      obtain rfl : name = "" := String.toList_inj.1 hl
      exact .empty
    next first rest hl =>
    -- the faults are looked for in the order in which they are listed
    split at h
    · next hfirst =>
      cases h
      exact .badStart hl ((Bool.not_eq_true' _).mp hfirst)
    next hfirst =>
    split at h
    · next hrest =>
      cases h
      rw [Bool.not_eq_true', List.all_eq_false] at hrest
      obtain ⟨c, hc, hpart⟩ := hrest
      rw [Bool.not_eq_true', Bool.not_eq_false] at hfirst
      exact .badCharacter hl hfirst hc (Bool.not_eq_true _ ▸ hpart)
    split at h
    · next hreserved =>
      cases h
      exact .reserved (isReserved_iff.1 hreserved)
    · contradiction
  · intro h
    cases h with
    | empty => rfl
    | badStart hl hfirst =>
      rw [hl]
      simp [hfirst]
    | @badCharacter _ first c rest hl hfirst hc hpart =>
      have hrest : rest.all isPart = false := List.all_eq_false.2 ⟨c, hc, by simp [hpart]⟩
      rw [hl]
      simp [hfirst, hrest]
    | reserved hmem =>
      obtain ⟨first, rest, hl, hfirst, hrest⟩ := spelt_of_reserved hmem
      rw [hl]
      simp [hfirst, hrest, isReserved_iff.2 hmem]

theorem fault?_eq_none_iff {name : String} : fault? name = none ↔ IsName name := by
  constructor
  · intro h
    have hno : ∀ fault, ¬ HasFault name fault := by
      intro fault hfault
      rw [fault?_eq_some_iff.2 hfault] at h
      contradiction
    cases hl : name.toList with
    | nil =>
      rw [String.toList_inj.1 (hl.trans String.toList_empty.symm)] at hno
      exact absurd .empty (hno .empty)
    | cons first rest =>
      have hfirst : isStart first = true := by
        rw [← Bool.not_eq_false]
        exact fun hbad => hno .badStart (.badStart hl hbad)
      have hrest : ∀ c ∈ rest, isPart c = true := by
        intro c hc
        rw [← Bool.not_eq_false]
        exact fun hbad => hno .badCharacter (.badCharacter hl hfirst hc hbad)
      exact ⟨⟨first, rest, hl, hfirst, hrest⟩, fun hmem => hno .reserved (.reserved hmem)⟩
  · rintro ⟨⟨first, rest, hl, hfirst, hrest⟩, hfree⟩
    rw [Option.eq_none_iff_forall_ne_some]
    intro fault hfault
    cases fault?_eq_some_iff.1 hfault with
    | empty => rw [String.toList_empty] at hl; contradiction
    | badStart hl' hbad =>
      rw [hl] at hl'
      cases hl'
      rw [hfirst] at hbad
      contradiction
    | badCharacter hl' _ hc hbad =>
      rw [hl] at hl'
      cases hl'
      rw [hrest _ hc] at hbad
      contradiction
    | reserved hmem => exact hfree hmem

instance : DecidablePred IsName := fun _ => decidable_of_iff _ fault?_eq_none_iff

/-! ### Qualified names -/

/-- **Identifiers with dots between them**, at least one. -/
def IsQualifiedName (name : String) : Prop :=
  ∃ names : List String, names ≠ [] ∧ (∀ n ∈ names, IsName n) ∧ name = ".".intercalate names

theorem IsName.dot_not_mem {name : String} (h : IsName name) : '.' ∉ name.toList := by
  intro hdot
  have hpart := (isPart_of_fault? (fault?_eq_none_iff.2 h)).2 '.' hdot
  exact absurd hpart (by decide +kernel)

theorem intercalate_segments (name : String) : ".".intercalate (segments name) = name := by
  rw [← String.toList_inj, String.toList_intercalate]
  unfold segments
  rw [List.map_map]
  simp only [Function.comp_def, String.toList_ofList, List.map_id']
  exact List.intercalate_splitOn '.'

theorem segments_ne_nil (name : String) : segments name ≠ [] := by
  unfold segments
  rw [Ne, List.map_eq_nil_iff]
  exact List.splitOn_ne_nil '.' _

theorem segments_intercalate {names : List String} (hne : names ≠ [])
    (h : ∀ n ∈ names, IsName n) : segments (".".intercalate names) = names :=
  Text.splitOn_toList_intercalate rfl hne fun n hn => (h n hn).dot_not_mem

/-- **A qualified name without a fault** is identifiers with dots between them. -/
theorem qualifiedFault?_eq_none_iff {name : String} :
    qualifiedFault? name = none ↔ IsQualifiedName name := by
  unfold qualifiedFault?
  simp only [List.findSome?_eq_none_iff, Option.map_eq_none_iff, fault?_eq_none_iff]
  constructor
  · intro h
    exact ⟨segments name, segments_ne_nil name, h, (intercalate_segments name).symm⟩
  · rintro ⟨names, hne, hnames, rfl⟩
    rwa [segments_intercalate hne hnames]

instance : DecidablePred IsQualifiedName :=
  fun _ => decidable_of_iff _ qualifiedFault?_eq_none_iff

/-- The fault of a qualified name is that of its first segment that is no identifier. -/
theorem qualifiedFault?_eq_some_iff {name segment : String} {fault : NameFault} :
    qualifiedFault? name = some (segment, fault) ↔
      ∃ before behind, segments name = before ++ segment :: behind ∧
        (∀ s ∈ before, IsName s) ∧ HasFault segment fault := by
  unfold qualifiedFault?
  rw [List.findSome?_eq_some_iff]
  simp only [Option.map_eq_some_iff, Option.map_eq_none_iff, fault?_eq_none_iff,
    fault?_eq_some_iff, Prod.mk.injEq]
  constructor
  · rintro ⟨before, _, behind, hsegments, ⟨_, hfault, rfl, rfl⟩, hbefore⟩
    exact ⟨before, behind, hsegments, hbefore, hfault⟩
  · rintro ⟨before, behind, hsegments, hbefore, hfault⟩
    exact ⟨before, segment, behind, hsegments, ⟨fault, hfault, rfl, rfl⟩, hbefore⟩

/-! ### Types of values -/

open TypeRef (brackets Cut IsBare)

/-- The word of a type: the keyword of a primitive type, or the name of a class. -/
def IsTypeWord (word : String) : Prop :=
  (∃ p : Primitive, word = p.keyword) ∨ IsQualifiedName word

/-- **The spelling of the type of a value**: a word, and any number of pairs of brackets. -/
def IsValueType (spelling : String) : Prop :=
  ∃ word n, spelling = word ++ brackets n ∧ IsTypeWord word

/-- **What keeps a spelling from being the type of a value.** -/
inductive HasTypeProblem : String → NameProblem → Prop
  /-- There is no word, or there are brackets behind `void`. -/
  | notAType {spelling word : String} {n : Nat} (h : Cut spelling word n)
      (hword : word = "" ∨ word = "void" ∧ 0 < n) : HasTypeProblem spelling .notAType
  | voidValue : HasTypeProblem "void" .voidValue
  /-- The word stands for a class, but one of the segments of its name, the first of them that is
  none, is no identifier. -/
  | identifier {spelling word segment : String} {n : Nat} {before behind : List String}
      {fault : NameFault} (h : Cut spelling word n)
      (hword : word ≠ "" ∧ word ≠ "void" ∧ ∀ p : Primitive, word ≠ p.keyword)
      (hsegments : segments word = before ++ segment :: behind)
      (hbefore : ∀ s ∈ before, IsName s) (hfault : HasFault segment fault) :
      HasTypeProblem spelling (.identifier fault)

theorem IsQualifiedName.not_mem {name : String} (h : IsQualifiedName name) {c : Char}
    (hpart : isPart c = false) (hdot : c ≠ '.') : c ∉ name.toList := by
  intro hc
  rcases isPart_or_dot_of_qualifiedFault? (qualifiedFault?_eq_none_iff.2 h) hc with hc | hc
  · rw [hpart] at hc
    contradiction
  · exact hdot hc

theorem IsTypeWord.isBare {word : String} (h : IsTypeWord word) : IsBare word := by
  rcases h with ⟨p, rfl⟩ | h
  · cases p <;> decide
  · -- a bracket is in no name
    intro hpair
    have hbracket : ']' ∈ word.toList := hpair.mem (by decide)
    exact h.not_mem (by decide +kernel) (by decide) hbracket

/-- No qualified name is read as anything but the name of a class. -/
theorem IsQualifiedName.isClassWord {name : String} (h : IsQualifiedName name) :
    name ≠ "" ∧ name ≠ "void" ∧ ∀ p : Primitive, name ≠ p.keyword := by
  refine ⟨?_, ?_, fun p => ?_⟩
  · rintro rfl
    exact absurd h (by decide +kernel)
  · rintro rfl
    exact absurd h (by decide +kernel)
  · -- the keywords are reserved
    rintro rfl
    cases p <;> exact absurd h (by decide +kernel)

theorem ofWord?_ne_array {word : String} {element : TypeRef} :
    TypeRef.ofWord? word ≠ some (.array element) := by
  intro h
  unfold TypeRef.ofWord? at h
  split at h
  · contradiction
  split at h
  · cases h
  split at h <;> cases h

/-- **The word of a spelling** is what its type has innermost. -/
theorem ofWord?_eq_innermost {word : String} (hword : IsBare word) {n : Nat} {t : TypeRef}
    (h : TypeRef.parse? (word ++ brackets n) = some t) :
    TypeRef.ofWord? word = some t.innermost := by
  -- each pair makes an array of what the rest is read as, and the word comes last
  induction n generalizing t with
  | zero =>
    rw [TypeRef.append_brackets_zero, TypeRef.parse?_of_bare hword] at h
    cases t with
    | array element => exact absurd h ofWord?_ne_array
    | primitive p => exact h
    | named name => exact h
    | void => exact h
  | succ n ih =>
    rw [TypeRef.append_brackets_succ, TypeRef.parse?_append_pair, Option.bind_eq_some_iff] at h
    obtain ⟨element, helement, ht⟩ := h
    obtain ⟨-, rfl⟩ := TypeRef.arrayOf?_eq_some_iff.1 ht
    show TypeRef.ofWord? word = some element.innermost
    exact ih helement

/-- **What a spelling is read as** is decided by its word: it stands for a primitive type, or it is
`void` by itself, or the name of a class that is yet to be checked. -/
theorem readValueType_cases {word : String} (hword : IsBare word) {n : Nat} {t : TypeRef}
    (h : TypeRef.parse? (word ++ brackets n) = some t) :
    (∃ p : Primitive, word = p.keyword ∧ readValueType (word ++ brackets n) = .ok t) ∨
      (word = "void" ∧ n = 0 ∧ readValueType (word ++ brackets n) = .error .voidValue) ∨
      ((word ≠ "" ∧ word ≠ "void" ∧ ∀ p : Primitive, word ≠ p.keyword) ∧
        readValueType (word ++ brackets n) =
          match qualifiedFault? word with
          | some (_, fault) => .error (.identifier fault)
          | none => .ok t) := by
  have hinner : TypeRef.ofWord? word = some t.innermost := ofWord?_eq_innermost hword h
  -- the pairs of brackets are no matter, since the check looks at the innermost type only
  have htext : t.innermost.text = word := TypeRef.text_of_ofWord? hinner
  unfold readValueType
  rw [h]
  dsimp only
  cases hi : t.innermost with
  | primitive p =>
    rw [hi] at htext
    exact Or.inl ⟨p, htext.symm, rfl⟩
  | array element =>
    rw [hi] at hinner
    exact absurd hinner ofWord?_ne_array
  | void =>
    rw [hi] at htext
    obtain rfl : "void" = word := htext
    have hsome : TypeRef.parse? ("void" ++ brackets n) ≠ none := by
      rw [h]
      exact Option.some_ne_none t
    -- with brackets behind it `void` would not be read
    have hcut : Cut ("void" ++ brackets n) "void" n := ⟨rfl, hword⟩
    have hzero : n = 0 := by
      refine Nat.eq_zero_of_not_pos fun hpos => hsome ?_
      exact hcut.parse?_eq_none_iff.2 (Or.inr ⟨rfl, hpos⟩)
    exact Or.inr (Or.inl ⟨rfl, hzero, rfl⟩)
  | named name =>
    rw [hi] at htext hinner
    obtain rfl : name = word := htext
    exact Or.inr (Or.inr ⟨TypeRef.ofWord?_eq_named_iff.1 hinner, rfl⟩)

/-- A word that a type may begin with is read, whatever pairs of brackets are behind it. -/
theorem exists_parse?_of_ne {word : String} (hword : IsBare word) (hempty : word ≠ "")
    (hvoid : word ≠ "void") (n : Nat) : ∃ t, TypeRef.parse? (word ++ brackets n) = some t := by
  have hcut : Cut (word ++ brackets n) word n := ⟨rfl, hword⟩
  apply Option.ne_none_iff_exists'.1
  rw [Ne, hcut.parse?_eq_none_iff, not_or]
  exact ⟨hempty, fun h => hvoid h.1⟩

/-- **A spelling is accepted as the type of a value** exactly if it is one. -/
theorem exists_readValueType_iff {spelling : String} :
    (∃ t, readValueType spelling = .ok t) ↔ IsValueType spelling := by
  constructor
  · rintro ⟨t, ht⟩
    obtain ⟨word, n, rfl, hword⟩ := TypeRef.exists_cut spelling
    refine ⟨word, n, rfl, ?_⟩
    -- nothing is accepted that is not read, and of what is read all but `void` and bad names are
    cases hread : TypeRef.parse? (word ++ brackets n) with
    | none =>
      unfold readValueType at ht
      rw [hread] at ht
      contradiction
    | some t' =>
      rcases readValueType_cases hword hread with ⟨p, hp, -⟩ | ⟨-, -, herror⟩ | ⟨-, hclass⟩
      · exact Or.inl ⟨p, hp⟩
      · rw [herror] at ht
        contradiction
      · rw [hclass] at ht
        split at ht
        · contradiction
        · next hnone => exact Or.inr (qualifiedFault?_eq_none_iff.1 hnone)
  · rintro ⟨word, n, rfl, hword⟩
    -- a keyword and a name are neither empty nor `void`
    have hne : word ≠ "" ∧ word ≠ "void" := by
      rcases hword with ⟨p, rfl⟩ | hname
      · cases p <;> decide
      · exact ⟨hname.isClassWord.1, hname.isClassWord.2.1⟩
    obtain ⟨t, ht⟩ := exists_parse?_of_ne hword.isBare hne.1 hne.2 n
    refine ⟨t, ?_⟩
    rcases readValueType_cases hword.isBare ht with ⟨-, -, hok⟩ | ⟨hvoid, -⟩ | ⟨⟨-, -, hp⟩, hclass⟩
    · exact hok
    · exact absurd hvoid hne.2
    · have hname : IsQualifiedName word := hword.resolve_left fun ⟨p, hkeyword⟩ => hp p hkeyword
      rw [hclass, qualifiedFault?_eq_none_iff.2 hname]

instance : DecidablePred IsValueType := fun spelling =>
  decidable_of_iff ((readValueType spelling).isOk = true) <| by
    rw [← exists_readValueType_iff]
    cases readValueType spelling <;> simp [Except.isOk, Except.toBool]

/-- **What is said of a spelling that is not accepted** is what keeps it from being the type of a
value. -/
theorem readValueType_eq_error_iff {spelling : String} {problem : NameProblem} :
    readValueType spelling = .error problem ↔ HasTypeProblem spelling problem := by
  constructor
  · intro h
    obtain ⟨word, n, rfl, hword⟩ := TypeRef.exists_cut spelling
    have hcut : Cut (word ++ brackets n) word n := ⟨rfl, hword⟩
    cases hread : TypeRef.parse? (word ++ brackets n) with
    | none =>
      unfold readValueType at h
      rw [hread] at h
      cases h
      exact .notAType hcut (hcut.parse?_eq_none_iff.1 hread)
    | some t =>
      -- the spelling is read, so what is wrong is the word: it is `void`, or a bad name of a class
      rcases readValueType_cases hword hread with
        ⟨p, -, hok⟩ | ⟨hvoid, hzero, herror⟩ | ⟨hclass, hchecked⟩
      · rw [hok] at h
        contradiction
      · rw [herror] at h
        cases h
        rw [hvoid, hzero]
        exact .voidValue
      · rw [hchecked] at h
        split at h
        · next segment fault hfault =>
          cases h
          -- the fault that is told is that of the first bad segment
          obtain ⟨before, behind, hsegments, hbefore, hsegment⟩ :=
            qualifiedFault?_eq_some_iff.1 hfault
          exact .identifier hcut hclass hsegments hbefore hsegment
        · contradiction
  · intro h
    cases h with
    | notAType hcut hword =>
      unfold readValueType
      rw [hcut.parse?_eq_none_iff.2 hword]
    | voidValue =>
      unfold readValueType
      rw [TypeRef.parse?_eq_void_iff.2 rfl]
      rfl
    | @identifier _ word segment n before behind fault hcut hword hsegments hbefore hfault =>
      obtain ⟨rfl, hbare⟩ := hcut
      -- a word with a bad segment is read all the same, and its segments are checked then
      obtain ⟨t, ht⟩ := exists_parse?_of_ne hbare hword.1 hword.2.1 n
      have hqualified : qualifiedFault? word = some (segment, fault) :=
        qualifiedFault?_eq_some_iff.2 ⟨before, behind, hsegments, hbefore, hfault⟩
      rcases readValueType_cases hbare ht with ⟨p, hp, -⟩ | ⟨hvoid, -⟩ | ⟨-, hclass⟩
      · exact absurd hp (hword.2.2 p)
      · exact absurd hvoid hword.2.1
      · rw [hclass, hqualified]

end Stencil.Java
