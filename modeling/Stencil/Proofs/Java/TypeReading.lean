import Stencil.Proofs.Java.Spelling

/-!
# Types as they are read and as they are written

A spelling is a word with pairs of brackets behind it, and if the word itself ends in no pair, this
is so in one way only (`exists_cut`, `Cut.unique`). Reading takes the pairs off one by one and looks
at the word when there is no further one, so all that is known of reading comes from two equations:
one for a pair (`parse?_append_pair`), and one for a text that ends in none (`parse?_of_bare`).

* `Cut.parse?_eq_none_iff` — a spelling stands for no type if it has no word, or pairs behind
  `void`;
* `parse?_text_iff` — a type is read back from how it is written exactly if it is well formed.
-/

namespace Stencil.Java

theorem Primitive.mem_all (p : Primitive) : p ∈ all := by
  cases p <;> decide

theorem Primitive.ofKeyword?_eq_none_iff {word : String} :
    ofKeyword? word = none ↔ ∀ p : Primitive, word ≠ p.keyword := by
  unfold ofKeyword?
  rw [List.find?_eq_none]
  constructor
  · intro h p hp
    exact h p p.mem_all (beq_iff_eq.2 hp.symm)
  · intro h p _ hp
    exact h p (beq_iff_eq.1 hp).symm

namespace TypeRef

/-! ### Words with brackets behind them -/

/-- Pairs of brackets. -/
def brackets : Nat → String
  | 0 => ""
  | n + 1 => brackets n ++ "[]"

/-- A text that ends in no pair of brackets. -/
def IsBare (word : String) : Prop :=
  ¬ "[]".toList <:+ word.toList

instance : DecidablePred IsBare := fun word => inferInstanceAs (Decidable (¬ _ <:+ word.toList))

/-- **A spelling cut into its word and the pairs of brackets behind it**, all of them. -/
structure Cut (spelling word : String) (n : Nat) : Prop where
  eq : spelling = word ++ brackets n
  bare : IsBare word

theorem append_brackets_zero (word : String) : word ++ brackets 0 = word :=
  String.append_empty

theorem append_brackets_succ (word : String) (n : Nat) :
    word ++ brackets (n + 1) = word ++ brackets n ++ "[]" :=
  String.append_assoc.symm

theorem not_isBare_append_pair (s : String) : ¬ IsBare (s ++ "[]") := by
  intro h
  apply h
  rw [String.toList_append]
  exact List.suffix_append _ _

theorem exists_append_pair {s : String} (h : ¬ IsBare s) : ∃ shorter, s = shorter ++ "[]" := by
  obtain ⟨front, hfront⟩ := Decidable.not_not.1 h
  refine ⟨String.ofList front, ?_⟩
  rw [← String.toList_inj, String.toList_append, String.toList_ofList]
  exact hfront.symm

/-- Words that end in no pair are told apart from the pairs behind them. -/
theorem eq_of_append_brackets {word word' : String} {n n' : Nat} (hword : IsBare word)
    (hword' : IsBare word') (h : word ++ brackets n = word' ++ brackets n') :
    word' = word ∧ n' = n := by
  -- the induction takes one pair off both, as long as there is one behind both
  induction n generalizing n' with
  | zero =>
    rw [append_brackets_zero] at h
    cases n' with
    | zero => exact ⟨by rw [h, append_brackets_zero], rfl⟩
    | succ n' =>
      -- the first word would end in the last pair behind the second
      rw [h, append_brackets_succ] at hword
      exact absurd hword (not_isBare_append_pair _)
  | succ n ih =>
    rw [append_brackets_succ] at h
    cases n' with
    | zero =>
      rw [append_brackets_zero] at h
      rw [← h] at hword'
      exact absurd hword' (not_isBare_append_pair _)
    | succ n' =>
      rw [append_brackets_succ] at h
      have hshorter := (String.append_left_inj "[]").1 h
      obtain ⟨hsame, hcount⟩ := ih hshorter
      exact ⟨hsame, congrArg (· + 1) hcount⟩

/-- **There is no more than one way to cut a spelling.** -/
theorem Cut.unique {spelling word word' : String} {n n' : Nat} (h : Cut spelling word n)
    (h' : Cut spelling word' n') : word' = word ∧ n' = n :=
  eq_of_append_brackets h.bare h'.bare (h.eq.symm.trans h'.eq)

/-- **There is a way to cut every spelling.** -/
theorem exists_cut (spelling : String) : ∃ word n, Cut spelling word n := by
  by_cases hbare : IsBare spelling
  · exact ⟨spelling, 0, (append_brackets_zero _).symm, hbare⟩
  · obtain ⟨shorter, hshorter⟩ := exists_append_pair hbare
    -- what is left without the pair is shorter, and can be cut in turn
    have hless : shorter.length < spelling.length := by
      rw [hshorter, String.length_append]
      exact Nat.lt_add_of_pos_right (by decide)
    obtain ⟨word, n, heq, hword⟩ := exists_cut shorter
    refine ⟨word, n + 1, ?_, hword⟩
    rw [append_brackets_succ, ← heq, hshorter]
termination_by spelling.length

/-! ### Reading -/

theorem arrayOf?_eq_none_iff {element : TypeRef} : arrayOf? element = none ↔ element = void := by
  cases element <;> simp [arrayOf?]

theorem arrayOf?_eq_some_iff {element t : TypeRef} :
    arrayOf? element = some t ↔ element ≠ void ∧ t = array element := by
  cases element <;> simp [arrayOf?, eq_comm]

theorem ofWord?_eq_none_iff {word : String} : ofWord? word = none ↔ word = "" := by
  unfold ofWord?
  rw [← String.isEmpty_iff]
  cases word.isEmpty with
  | true => simp
  | false =>
    -- every other word is `void`, a keyword or a name
    refine iff_of_false (fun h => ?_) Bool.false_ne_true
    rw [if_neg Bool.false_ne_true] at h
    split at h
    · contradiction
    · split at h <;> contradiction

/-- A word is the name of a class if it has no other meaning. -/
theorem ofWord?_eq_named_iff {name : String} :
    ofWord? name = some (named name) ↔
      name ≠ "" ∧ name ≠ "void" ∧ ∀ p : Primitive, name ≠ p.keyword := by
  unfold ofWord?
  rw [← Primitive.ofKeyword?_eq_none_iff, Ne, ← String.isEmpty_iff, Ne, ← beq_iff_eq (b := "void")]
  cases name.isEmpty <;> cases name == "void" <;> cases Primitive.ofKeyword? name <;> simp

/-- A pair of brackets makes an array of what is before it. -/
theorem parse?_append_pair (s : String) : parse? (s ++ "[]") = (parse? s).bind arrayOf? := by
  unfold parse?
  rw [String.toList_append, List.reverse_append]
  rfl

/-- Without a pair at its end a text is a word. -/
theorem parse?_of_bare {word : String} (h : IsBare word) : parse? word = ofWord? word := by
  unfold parse? parseReversed?
  split
  · next rest hrest =>
    -- the last characters are no pair
    refine absurd ⟨rest.reverse, ?_⟩ h
    rw [← List.reverse_inj, hrest, List.reverse_append, List.reverse_reverse]
    rfl
  · rw [List.reverse_reverse, String.ofList_toList]

theorem parse?_eq_void_iff {s : String} : parse? s = some void ↔ s = "void" := by
  constructor
  · intro h
    exact (text_of_parse? h).symm
  · rintro rfl
    decide

/-- Nothing but `void` itself is `void` with pairs taken off. -/
theorem append_brackets_eq_void_iff {word : String} {n : Nat} (hword : IsBare word) :
    word ++ brackets n = "void" ↔ word = "void" ∧ n = 0 := by
  have hvoid : IsBare "void" := by decide
  constructor
  · intro h
    rw [← append_brackets_zero "void"] at h
    obtain ⟨hsame, hcount⟩ := eq_of_append_brackets hword hvoid h
    exact ⟨hsame.symm, hcount.symm⟩
  · rintro ⟨rfl, rfl⟩
    exact append_brackets_zero _

/-- **A spelling stands for no type** exactly if there is no word in it, or `void` with pairs of
brackets behind it. -/
theorem Cut.parse?_eq_none_iff {spelling word : String} {n : Nat} (h : Cut spelling word n) :
    parse? spelling = none ↔ word = "" ∨ word = "void" ∧ 0 < n := by
  obtain ⟨rfl, hword⟩ := h
  induction n with
  | zero =>
    rw [append_brackets_zero, parse?_of_bare hword, ofWord?_eq_none_iff]
    simp
  | succ n ih =>
    rw [append_brackets_succ, parse?_append_pair]
    cases hread : parse? (word ++ brackets n) with
    | none =>
      -- no type is made of no type
      have hbefore := ih.1 hread
      exact iff_of_true rfl (hbefore.imp id fun hvoid => ⟨hvoid.1, n.succ_pos⟩)
    | some t =>
      -- one pair too many makes the difference only behind `void`
      have hbefore : ¬ (word = "" ∨ word = "void" ∧ 0 < n) := by
        rw [← ih, hread]
        exact fun hnone => nomatch hnone
      have hvoid : t = void ↔ word = "void" ∧ n = 0 := by
        rw [← append_brackets_eq_void_iff hword, ← parse?_eq_void_iff, hread, Option.some.injEq]
      rw [Option.bind_some, arrayOf?_eq_none_iff, hvoid]
      constructor
      · intro hzero
        exact Or.inr ⟨hzero.1, n.succ_pos⟩
      · intro hnew
        have hempty : word ≠ "" := fun hempty => hbefore (Or.inl hempty)
        obtain ⟨hword, -⟩ := hnew.resolve_left hempty
        refine ⟨hword, Nat.eq_zero_of_not_pos fun hpos => ?_⟩
        exact hbefore (Or.inr ⟨hword, hpos⟩)

/-! ### Types that are read back -/

/-- **A well-formed type**: `void` is nowhere in an array, and the name of a class is no spelling of
another type. -/
def IsWellFormed : TypeRef → Prop
  | primitive _ => True
  | array element => element ≠ void ∧ element.IsWellFormed
  | named name =>
    name ≠ "" ∧ name ≠ "void" ∧ (∀ p : Primitive, name ≠ p.keyword) ∧ IsBare name
  | void => True

/-- **A type is read back from how it is written** exactly if it is well formed. -/
theorem parse?_text_iff {t : TypeRef} : parse? t.text = some t ↔ t.IsWellFormed := by
  induction t with
  | primitive p => exact iff_of_true (by cases p <;> decide) trivial
  | array element ih =>
    show parse? (element.text ++ "[]") = some (array element) ↔ element ≠ void ∧ _
    rw [← ih, parse?_append_pair, Option.bind_eq_some_iff]
    simp only [arrayOf?_eq_some_iff, array.injEq]
    -- an array is read back if its element is, and is one that arrays are made of
    constructor
    · rintro ⟨a, hread, hvoid, rfl⟩
      exact ⟨hvoid, hread⟩
    · rintro ⟨hvoid, hread⟩
      exact ⟨element, hread, hvoid, rfl⟩
  | named name =>
    show parse? name = some (named name) ↔ _ ∧ _ ∧ _ ∧ IsBare name
    by_cases hbare : IsBare name
    · rw [parse?_of_bare hbare, ofWord?_eq_named_iff]
      simp only [hbare, and_true]
    · -- with a pair at its end the name is read as an array, if as anything
      refine iff_of_false (fun h => ?_) fun h => hbare h.2.2.2
      obtain ⟨shorter, hshorter⟩ := exists_append_pair hbare
      rw [hshorter, parse?_append_pair, Option.bind_eq_some_iff] at h
      obtain ⟨a, -, ha⟩ := h
      obtain ⟨-, hnamed⟩ := arrayOf?_eq_some_iff.1 ha
      contradiction
  | void => exact iff_of_true (by decide) trivial

/-- **Reading a type and writing it are inverse to each other.** What is read is written as it was
spelt. All spellings are read but those whose word is missing, and `void` with pairs of brackets.
And the types that are read back from how they are written are the well-formed ones. -/
theorem parse?_inverts_text :
    (∀ spelling t, parse? spelling = some t → t.text = spelling) ∧
    (∀ spelling, ∃ word n, Cut spelling word n ∧
      (∀ word' n', Cut spelling word' n' → word' = word ∧ n' = n) ∧
      (parse? spelling = none ↔ word = "" ∨ word = "void" ∧ 0 < n)) ∧
    ∀ t : TypeRef, parse? t.text = some t ↔ t.IsWellFormed := by
  refine ⟨fun spelling t h => text_of_parse? h, fun spelling => ?_, fun t => parse?_text_iff⟩
  obtain ⟨word, n, hcut⟩ := exists_cut spelling
  exact ⟨word, n, hcut, fun word' n' => hcut.unique, hcut.parse?_eq_none_iff⟩

/-- Arrays of a class are written as they were spelt, `void` has no arrays, and a name with
brackets of its own is not read back. -/
theorem parse?_inverts_text_nested :
    parse? "a.B[][]" = some (arrays (named "a.B") 2) ∧
      (arrays (named "a.B") 2).text = "a.B[][]" ∧
      parse? "void[]" = none ∧ parse? (named "int[]").text ≠ some (named "int[]") := by
  obtain ⟨hwritten, hunread, hback⟩ := parse?_inverts_text
  have hread : parse? "a.B[][]" = some (arrays (named "a.B") 2) := by decide
  refine ⟨hread, hwritten _ _ hread, ?_, ?_⟩
  · -- the only cut of the spelling is the one behind `void`
    obtain ⟨word, n, hcut, hunique, hnone⟩ := hunread "void[]"
    obtain ⟨rfl, rfl⟩ := hunique "void" 1 ⟨by decide, by decide⟩
    exact hnone.2 (Or.inr ⟨rfl, Nat.one_pos⟩)
  · intro h
    obtain ⟨-, -, -, hbare⟩ := (hback _).1 h
    exact absurd hbare (by decide)

end TypeRef

end Stencil.Java
