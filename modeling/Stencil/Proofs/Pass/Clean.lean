import Stencil.Proofs.Output.Publishing
import Stencil.Proofs.Pass.Overlay

/-!
# Passes without failures

Where nothing fails, nothing was refused: every declaration with the marker was the first of its
package in its round, and its artifact was published. So what was written is told by the packages
that were asked for (`Tracks.runRounds`), also where the published artifacts, the place to which
they went, and what would have failed there are not known. `Tracks` is a relation between the names
that were published and the state, which every publication that succeeds keeps; nothing is asked of
one that fails.
-/

namespace Stencil

variable {σ : Type} {render : Request → Except GenerateError Artifact}
  {publish : Artifact → StateM σ (Except WriteError Unit)}

/-- Generation succeeds by publishing what was rendered. -/
theorem publish_of_generate_ok {r : Request} {state next : σ} {name : String}
    (h : generate render publish r state = (.ok name, next)) :
    ∃ a, render r = .ok a ∧ a.name = name ∧ publish a state = (.ok (), next) := by
  obtain ⟨a, ha, hname⟩ := render_of_generate_ok h
  refine ⟨a, ha, hname, ?_⟩
  rw [generate_of_ok ha] at h
  obtain ⟨hresult, hnext⟩ := Prod.ext_iff.1 h
  rcases hpublish : publish a state with ⟨_ | ⟨⟩, final⟩
  · rw [hpublish] at hresult
    contradiction
  · rw [hpublish] at hnext
    exact congrArg (Prod.mk _) hnext

/-- **A relation between published names and states** that is kept where publishing succeeds. -/
def Tracks (publish : Artifact → StateM σ (Except WriteError Unit))
    (related : List String → σ → Prop) : Prop :=
  ∀ names state a next, related names state → publish a state = (.ok (), next) →
    related (names ++ [a.name]) next

namespace Tracks

variable {related : List String → σ → Prop}

/-- A run without failures publishes what it is asked for, one name after the other. -/
theorem answered (htracks : Tracks publish related) {className : String}
    (hname : ∀ r a, render r = .ok a → a.name = r.qualifiedName) {earlier : List String}
    {asked : List (Declaration × Request)} {state final : σ}
    {results : List (Except GenerateError String)}
    (h : Answered render publish earlier asked state results final)
    (hasked : ∀ a ∈ asked, a.2 = ⟨a.1.package, className⟩)
    (hclean : results.filterMap error? = []) {names : List String} (hstate : related names state) :
    results.filterMap Except.toOption = asked.map (qualifiedName ·.1.package className) ∧
      related (names ++ asked.map (qualifiedName ·.1.package className)) final := by
  -- a result that is no name would be a failure, so every request is the first of its name
  induction h generalizing names with
  | none => exact ⟨rfl, by rwa [List.map_nil, List.append_nil]⟩
  | repeated =>
    rw [List.filterMap_cons_some (by rfl)] at hclean
    contradiction
  | @first earlier d r rest state next final result results hnew hresult hrest ih =>
    cases result with
    | error e =>
      rw [List.filterMap_cons_some (by rfl)] at hclean
      contradiction
    | ok name =>
      rw [List.filterMap_cons_none (by rfl)] at hclean
      -- the artifact has the name that was asked for
      obtain ⟨a, ha, rfl, hpublish⟩ := publish_of_generate_ok hresult
      have hown : a.name = qualifiedName d.package className := by
        have hrequest : r = ⟨d.package, className⟩ := hasked (d, r) List.mem_cons_self
        rw [hname r a ha, hrequest]
        rfl
      obtain ⟨hwritten, hfinal⟩ := ih (fun b hb => hasked b (List.mem_cons_of_mem _ hb)) hclean
        (htracks _ _ _ _ hstate hpublish)
      rw [List.filterMap_cons_some (by rfl), List.map_cons, ← hown, hwritten]
      rw [List.append_assoc] at hfinal
      exact ⟨rfl, hfinal⟩

/-- **A pass without failures writes one name for every declaration with its marker**, in order, and
the state keeps track of them. -/
theorem runRounds (htracks : Tracks publish related)
    (hname : ∀ r a, render r = .ok a → a.name = r.qualifiedName) (config : PassConfig)
    (rounds : List Round) {names : List String} {state : σ} (hstate : related names state)
    (hclean : ∀ o ∈ (runRounds config render publish rounds state).1, o.failures = []) :
    (runRounds config render publish rounds state).1.flatMap (·.written) =
        (config.packages rounds).map (qualifiedName · config.className) ∧
      related (names ++ (config.packages rounds).map (qualifiedName · config.className))
        (runRounds config render publish rounds state).2 := by
  induction rounds generalizing names state with
  | nil =>
    rw [PassConfig.packages, List.flatMap_nil, List.map_nil, List.append_nil]
    exact ⟨rfl, hstate⟩
  | cons round rest ih =>
    obtain ⟨results, next, hrun, hanswered⟩ :=
      answered_runRound config render publish round state
    -- the first round and the rest are clean each by itself
    rw [runRounds_cons] at hclean ⊢
    rw [hrun] at hclean ⊢
    obtain ⟨hfirst, hrest⟩ := List.forall_mem_cons.1 hclean
    -- the round has published its names, and the rounds behind it go on from there
    have hnone : results.filterMap error? = [] := (failures_ofResults results).symm.trans hfirst
    obtain ⟨hround, hnext⟩ := htracks.answered hname hanswered request_of_mem_matching hnone hstate
    obtain ⟨hwritten, hfinal⟩ := ih hnext hrest
    -- the names are of the same packages, with the declarations or without them
    have hnames : (config.matching round).map (qualifiedName ·.1.package config.className) =
        ((config.matching round).map (·.1.package)).map (qualifiedName · config.className) := by
      rw [List.map_map]
      rfl
    dsimp only
    rw [List.flatMap_cons, hwritten, PassConfig.packages_cons, List.map_append, ← hnames, ← hround,
      ← List.append_assoc]
    rw [← hround] at hfinal
    exact ⟨congrArg (· ++ _) (written_ofResults results), hfinal⟩

end Tracks

end Stencil
