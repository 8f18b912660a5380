import Mathlib.Data.List.Forall2
import Stencil.Proofs.Pass.Accounting

/-!
# Passes in step

Two passes over the same rounds that publish to different places go on **in step** if each request
takes related states to related states, with related results. Which requests are made depends on the
declarations alone, so a relation that a single request keeps is kept by a whole pass, and the
results of the two are related one by one (`InStep.runRounds`).
-/

namespace Stencil

variable {σ τ : Type} {render : Request → Except GenerateError Artifact}
  {publish : Artifact → StateM σ (Except WriteError Unit)}
  {publish' : Artifact → StateM τ (Except WriteError Unit)}

/-- Relations between states and between results that every request keeps. -/
structure InStep (render : Request → Except GenerateError Artifact)
    (publish : Artifact → StateM σ (Except WriteError Unit))
    (publish' : Artifact → StateM τ (Except WriteError Unit)) (states : σ → τ → Prop)
    (results : Except GenerateError String → Except GenerateError String → Prop) : Prop where
  /-- A request that is refused in one pass is refused in the other. -/
  duplicate : ∀ name declaration, results (.error (.duplicate name declaration))
    (.error (.duplicate name declaration))
  generate : ∀ r s t, states s t →
    results (generate render publish r s).1 (generate render publish' r t).1 ∧
      states (generate render publish r s).2 (generate render publish' r t).2

/-- Rounds whose results are related one by one. -/
inductive RoundOutcome.Matched
    (related : Except GenerateError String → Except GenerateError String → Prop) :
    RoundOutcome → RoundOutcome → Prop
  | unclaimed : Matched related { claimed := false } { claimed := false }
  | claimed {results results' : List (Except GenerateError String)}
      (h : List.Forall₂ related results results') :
      Matched related (.ofResults results) (.ofResults results')

/-- Rounds whose results are equal one by one have the same outcome. -/
theorem RoundOutcome.Matched.eq {o o' : RoundOutcome}
    (h : RoundOutcome.Matched (· = ·) o o') : o = o' := by
  cases h with
  | unclaimed => rfl
  | claimed h =>
    rw [List.forall₂_eq_eq_eq] at h
    rw [h]

namespace InStep

variable {states : σ → τ → Prop}
  {related : Except GenerateError String → Except GenerateError String → Prop}

theorem generateAll (h : InStep render publish publish' states related)
    (asked : List (Declaration × Request)) (seen : List String) {s : σ} {t : τ}
    (hstates : states s t) :
    List.Forall₂ related (generateAll render publish seen asked s).1
        (generateAll render publish' seen asked t).1 ∧
      states (generateAll render publish seen asked s).2
        (generateAll render publish' seen asked t).2 := by
  induction asked generalizing seen s t with
  | nil => exact ⟨.nil, hstates⟩
  | cons a rest ih =>
    obtain ⟨d, r⟩ := a
    -- both passes have seen the same names
    by_cases hseen : r.qualifiedName ∈ seen
    · rw [generateAll_seen hseen, generateAll_seen hseen]
      obtain ⟨hrest, hfinal⟩ := ih (r.qualifiedName :: seen) hstates
      exact ⟨.cons (h.duplicate _ _) hrest, hfinal⟩
    · rw [generateAll_unseen hseen, generateAll_unseen hseen]
      obtain ⟨hresult, hnext⟩ := h.generate r s t hstates
      obtain ⟨hrest, hfinal⟩ := ih (r.qualifiedName :: seen) hnext
      exact ⟨.cons hresult hrest, hfinal⟩

theorem runRound (h : InStep render publish publish' states related) (config : PassConfig)
    (round : Round) {s : σ} {t : τ} (hstates : states s t) :
    RoundOutcome.Matched related (runRound config render publish round s).1
        (runRound config render publish' round t).1 ∧
      states (runRound config render publish round s).2
        (runRound config render publish' round t).2 := by
  obtain ⟨hresults, hfinal⟩ := h.generateAll (config.matching round) [] hstates
  unfold Stencil.runRound
  -- a round without declarations is claimed by neither pass
  cases round.declarations.isEmpty with
  | true => exact ⟨.unclaimed, hstates⟩
  | false => exact ⟨.claimed hresults, hfinal⟩

/-- **Passes in step** have related results in every round, and end in related states. -/
theorem runRounds (h : InStep render publish publish' states related) (config : PassConfig)
    (rounds : List Round) {s : σ} {t : τ} (hstates : states s t) :
    List.Forall₂ (RoundOutcome.Matched related) (runRounds config render publish rounds s).1
        (runRounds config render publish' rounds t).1 ∧
      states (runRounds config render publish rounds s).2
        (runRounds config render publish' rounds t).2 := by
  induction rounds generalizing s t with
  | nil => exact ⟨.nil, hstates⟩
  | cons round rest ih =>
    obtain ⟨hround, hnext⟩ := h.runRound config round hstates
    obtain ⟨hrest, hfinal⟩ := ih hnext
    rw [runRounds_cons, runRounds_cons]
    exact ⟨.cons hround hrest, hfinal⟩

/-- If their results are equal, so are the outcomes. -/
theorem runRounds_eq (h : InStep render publish publish' states (· = ·)) (config : PassConfig)
    (rounds : List Round) {s : σ} {t : τ} (hstates : states s t) :
    (Stencil.runRounds config render publish rounds s).1 =
      (Stencil.runRounds config render publish' rounds t).1 := by
  have hrounds := (h.runRounds config rounds hstates).1.imp fun _ _ => RoundOutcome.Matched.eq
  rwa [List.forall₂_eq_eq_eq] at hrounds

end InStep

end Stencil
