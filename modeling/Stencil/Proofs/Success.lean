import Mathlib.Data.List.Forall2

/-!
# Computations that succeed and computations that fail

A computation in `Except` that succeeds is taken apart into the steps that succeeded. `bind_ok` does
it for a sequence of two, `forall_of_mapM_ok`, `exists_of_mem_mapM_ok`, `map_of_mapM_ok` and
`forall₂_of_mapM_ok` for a step that is done to every item of a list.

One that fails does so with the error of its first step that fails. So its error, if it has one, is
found by looking through the steps (`error?_bind`, `error?_mapM`), and to put all errors in other
words is to put those of each step in other words (`mapError_bind`, `mapError_mapM`).

Two computations go together (`Together`) if both fail, or both succeed with related results. They
do if their steps do (`Together.bind`).
-/

namespace Stencil

variable {ε ε' α β γ : Type}

theorem exists_of_isOk {x : Except ε α} (h : x.isOk = true) : ∃ a, x = .ok a := by
  cases x with
  | error e => contradiction
  | ok a => exact ⟨a, rfl⟩

theorem eq_ok_of_toOption {x : Except ε α} {a : α} (h : x.toOption = some a) : x = .ok a := by
  cases x with
  | error e => contradiction
  | ok b => exact congrArg Except.ok (Option.some.inj h)

/-- Both parts of a sequence that succeeds do. -/
theorem bind_ok {x : Except ε α} {f : α → Except ε β} {b : β} (h : (x >>= f) = .ok b) :
    ∃ a, x = .ok a ∧ f a = .ok b := by
  cases x with
  | error e => cases h
  | ok a => exact ⟨a, rfl, h⟩

theorem mapM_cons_ok {f : α → Except ε β} {a : α} {l : List α} {bs : List β}
    (h : (a :: l).mapM f = .ok bs) :
    ∃ b rest, f a = .ok b ∧ l.mapM f = .ok rest ∧ bs = b :: rest := by
  rw [List.mapM_cons] at h
  obtain ⟨b, hb, h⟩ := bind_ok h
  obtain ⟨rest, hrest, h⟩ := bind_ok h
  cases h
  exact ⟨b, rest, hb, hrest, rfl⟩

/-- A step that is done to a list with success succeeds for every item. -/
theorem forall_of_mapM_ok {f : α → Except ε β} {l : List α} {bs : List β}
    (h : l.mapM f = .ok bs) : ∀ a ∈ l, ∃ b, f a = .ok b := by
  induction l generalizing bs with
  | nil => exact fun a ha => absurd ha List.not_mem_nil
  | cons a l ih =>
    -- the first step succeeded, and so did the others
    obtain ⟨b, rest, hb, hrest, -⟩ := mapM_cons_ok h
    intro a' ha'
    rcases List.mem_cons.1 ha' with rfl | ha'
    · exact ⟨b, hb⟩
    · exact ih hrest a' ha'

/-- Every result of a step that is done to a list is that of an item. -/
theorem exists_of_mem_mapM_ok {f : α → Except ε β} {l : List α} {bs : List β}
    (h : l.mapM f = .ok bs) : ∀ b ∈ bs, ∃ a ∈ l, f a = .ok b := by
  induction l generalizing bs with
  | nil =>
    cases h
    exact fun b hb => absurd hb List.not_mem_nil
  | cons a l ih =>
    obtain ⟨b, rest, hb, hrest, rfl⟩ := mapM_cons_ok h
    intro b' hb'
    rcases List.mem_cons.1 hb' with rfl | hb'
    · exact ⟨a, List.mem_cons_self, hb⟩
    · obtain ⟨a', ha', hstep⟩ := ih hrest b' hb'
      exact ⟨a', List.mem_cons_of_mem _ ha', hstep⟩

/-- What can be told of a result from the item can be told of all results from the list. -/
theorem map_of_mapM_ok {f : α → Except ε β} {g : β → γ} {g' : α → γ}
    (hstep : ∀ a b, f a = .ok b → g b = g' a) {l : List α} {bs : List β}
    (h : l.mapM f = .ok bs) : bs.map g = l.map g' := by
  induction l generalizing bs with
  | nil =>
    cases h
    rfl
  | cons a l ih =>
    obtain ⟨b, rest, hb, hrest, rfl⟩ := mapM_cons_ok h
    rw [List.map_cons, List.map_cons, hstep a b hb, ih hrest]

/-- The results are those of the items, one by one. -/
theorem forall₂_of_mapM_ok {f : α → Except ε β} {l : List α} {bs : List β}
    (h : l.mapM f = .ok bs) : List.Forall₂ (fun a b => f a = .ok b) l bs := by
  induction l generalizing bs with
  | nil =>
    cases h
    exact .nil
  | cons a l ih =>
    obtain ⟨b, rest, hb, hrest, rfl⟩ := mapM_cons_ok h
    exact .cons hb (ih hrest)

/-! ### Errors -/

/-- The error of a result, if it is one. -/
def error? : Except ε α → Option ε
  | .ok _ => none
  | .error e => some e

theorem error?_eq_none_iff (result : Except ε α) : error? result = none ↔ result.isOk := by
  cases result with
  | ok a => exact ⟨fun _ => rfl, fun _ => rfl⟩
  | error e => exact ⟨fun h => by contradiction, fun h => by contradiction⟩

theorem error?_eq_some_iff {result : Except ε α} {e : ε} :
    error? result = some e ↔ result = .error e := by
  cases result with
  | ok a => exact ⟨fun h => by contradiction, fun h => by contradiction⟩
  | error e' => exact ⟨fun h => by rw [Option.some.inj h], fun h => by rw [Except.error.inj h]; rfl⟩

theorem exists_ok_iff {result : Except ε α} : (∃ a, result = .ok a) ↔ error? result = none := by
  cases result with
  | ok a => exact iff_of_true ⟨a, rfl⟩ rfl
  | error e => exact iff_of_false (fun ⟨_, h⟩ => nomatch h) fun h => nomatch h

/-- Every result is a success or a failure. -/
theorem length_toOption_add_error? (results : List (Except ε α)) :
    (results.filterMap Except.toOption).length + (results.filterMap error?).length =
      results.length := by
  induction results with
  | nil => rfl
  | cons result rest ih =>
    -- each result counts on one side only
    cases result with
    | ok a =>
      rw [List.filterMap_cons_some (by rfl), List.filterMap_cons_none (by rfl), List.length_cons,
        List.length_cons, ← ih]
      omega
    | error e =>
      rw [List.filterMap_cons_none (by rfl), List.filterMap_cons_some (by rfl), List.length_cons,
        List.length_cons, ← ih]
      omega

/-- What is found in a list is found in its first item, and else behind it. -/
theorem findSome?_cons_or (f : α → Option β) (a : α) (l : List α) :
    (a :: l).findSome? f = (f a).or (l.findSome? f) := by
  rw [List.findSome?_cons]
  cases f a <;> rfl

theorem findSome?_flatMap (f : β → Option γ) (g : α → List β) (l : List α) :
    (l.flatMap g).findSome? f = l.findSome? fun a => (g a).findSome? f := by
  induction l with
  | nil => rfl
  | cons a l ih => rw [List.flatMap_cons, List.findSome?_append, ih, findSome?_cons_or]

/-- The error of a sequence is that of its first part, and else that of the second, where this one
fails alike whatever the first has given. -/
theorem error?_bind {x : Except ε α} {f : α → Except ε β} {behind : Option ε}
    (h : ∀ a, error? (f a) = behind) : error? (x >>= f) = (error? x).or behind := by
  cases x with
  | ok a => exact h a
  | error e => rfl

/-- The error of a step that is done to a list is that of the first item with which it fails. -/
theorem error?_mapM (f : α → Except ε β) (l : List α) :
    error? (l.mapM f) = l.findSome? fun a => error? (f a) := by
  induction l with
  | nil => rfl
  | cons a l ih =>
    -- what is done with the results adds no error
    have hrest : ∀ b, error? (l.mapM f >>= fun rest => pure (b :: rest)) =
        l.findSome? fun a => error? (f a) := by
      intro b
      rw [← ih]
      cases l.mapM f <;> rfl
    rw [List.mapM_cons, error?_bind hrest, findSome?_cons_or]

theorem mapError_bind (g : ε → ε') (x : Except ε α) (f : α → Except ε β) :
    (x >>= f).mapError g = x.mapError g >>= fun a => (f a).mapError g := by
  cases x <;> rfl

theorem mapError_mapM (g : ε → ε') (f : α → Except ε β) (l : List α) :
    (l.mapM f).mapError g = l.mapM fun a => (f a).mapError g := by
  induction l with
  | nil => rfl
  | cons a l ih =>
    rw [List.mapM_cons, List.mapM_cons, mapError_bind]
    refine congrArg _ (funext fun b => ?_)
    rw [mapError_bind, ih]
    rfl

/-! ### Two computations -/

/-- **Computations that succeed and fail together**, with related results. -/
inductive Together (related : α → β → Prop) : Except ε α → Except ε β → Prop
  | ok {a : α} {b : β} (h : related a b) : Together related (.ok a) (.ok b)
  | error (e e' : ε) : Together related (.error e) (.error e')

theorem Together.bind {related : α → β → Prop} {related' : γ → γ → Prop} {x : Except ε α}
    {y : Except ε β} {f : α → Except ε γ} {g : β → Except ε γ} (h : Together related x y)
    (hnext : ∀ a b, related a b → Together related' (f a) (g b)) :
    Together related' (x >>= f) (y >>= g) := by
  cases h with
  | ok h => exact hnext _ _ h
  | error e e' => exact .error e e'

end Stencil
