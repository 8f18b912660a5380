import Stencil.Output.Memory
import Stencil.Proofs.Java.PackageChecks
import Stencil.Proofs.Pass.Accounting
import Stencil.Report

/-!
# What a check foretells of a run

A check builds the class of a manifest once, in the unnamed package, and counts the declarations of
a feed that carry the marker. It makes no pass. That it speaks for all passes rests on two facts: a
pass accounts for every declaration that is counted (`matching_ofFeed`), and the template is built
in every package as it is in the unnamed one (`PackageChecks`).

`Foretold` is what a check then says of one declaration, and `check_foretells` says it of all that
are the first of their package in their round.
-/

namespace Stencil

/-! ### Counting -/

section

variable {σ : Type} (config : PassConfig) (render : Request → Except GenerateError Artifact)
  (publish : Artifact → StateM σ (Except WriteError Unit))

/-- The number of artifacts that were published or were to be. -/
def RoundOutcome.count (o : RoundOutcome) : Nat :=
  o.written.length + o.failures.length

theorem count_runRound (round : Round) (state : σ) :
    (runRound config render publish round state).1.count = (config.matching round).length := by
  obtain ⟨results, final, hrun, hanswered⟩ := answered_runRound config render publish round state
  rw [hrun, ← hanswered.length, ← length_toOption_add_error? results, ← written_ofResults,
    ← failures_ofResults]
  rfl

/-- The class that a pass asks for has no part in which declarations it counts. -/
theorem length_requests (marker : String) (round : Round) (h : config.marker = marker) :
    (PassConfig.requests { marker } round).length = (config.matching round).length := by
  unfold PassConfig.requests
  rw [List.length_map, length_matching, length_matching, h]

/-- **The declarations that a check counts** are those that a pass accounts for. -/
theorem matching_ofFeed (path : String) (feed : Feed) (state : σ) :
    (FeedSummary.ofFeed path config.marker feed).matching =
      total RoundOutcome.count (runRounds config render publish feed.rounds state).1 := by
  unfold FeedSummary.ofFeed
  dsimp only
  -- the preview counts round by round, and a round answers as many as it has requests
  induction feed.rounds generalizing state with
  | nil => rfl
  | cons round rest ih =>
    rw [runRounds_cons, total_cons, ih, length_requests config _ round rfl,
      ← count_runRound config render publish round state]
    rfl

end

/-! ### Building -/

/-- **What a check says of a request** whose answer is `result`: if it found nothing, the request is
rendered exactly if its package is one, and else it is refused with the offence that was found. -/
structure Foretold (report : CheckReport) (t : ClassTemplate) (r : Request)
    (result : Except GenerateError String) : Prop where
  /-- Nothing was found, and the package decides. -/
  fine : report.error = none →
    ((∃ a, Strategy.structured.render t r = .ok a) ↔ Java.IsPackage r.package)
  /-- The answer is a refusal exactly if there is no rendering. -/
  refused : (∃ e, result = .error (.invalidName e)) ↔
    ¬ ∃ a, Strategy.structured.render t r = .ok a
  /-- Something was found, and it is what is refused, unless the package is refused before. -/
  wrong : ∀ e, report.error = some e → ∃ e', result = .error (.invalidName e') ∧
    (Java.IsPackage r.package → e' = e.within r.qualifiedName ∧
      e'.role.text = e.role.text ∧ e'.name = e.name ∧ e'.problem.reason = e.problem.reason)

section

variable {t : ClassTemplate} {r : Request}

/-- A class is rendered exactly if it is built. -/
theorem exists_render_structured_iff :
    (∃ a, Strategy.structured.render t r = .ok a) ↔ ∃ c, Java.buildClass t r = .ok c := by
  constructor
  · rintro ⟨a, ha⟩
    obtain ⟨c, hc, -⟩ := Strategy.exists_buildClass_of_render ha
    exact ⟨c, hc⟩
  · rintro ⟨c, hc⟩
    exact ⟨_, Strategy.render_structured_of_ok hc⟩

theorem generate_structured_refused_iff {σ : Type}
    (publish : Artifact → StateM σ (Except WriteError Unit)) (state : σ) (e : Java.InvalidName) :
    (generate (Strategy.structured.render t) publish r state).1 = .error (.invalidName e) ↔
      Java.buildClass t r = .error e := by
  cases hbuild : Java.buildClass t r with
  | error e' =>
    rw [generate_of_error (Strategy.render_structured_of_error hbuild)]
    simp
  | ok c =>
    rw [generate_of_ok (Strategy.render_structured_of_ok hbuild)]
    dsimp only
    constructor
    · -- what fails when it is published is no refusal
      intro h
      cases hpublish : (publish (r.artifact c.text) state).1 <;> rw [hpublish] at h <;> cases h
    · exact fun h => by contradiction

/-- The error of a check is the one of building in the unnamed package. -/
theorem error_ofManifest (path : String) (m : Manifest) :
    (CheckReport.ofManifest path m).error =
      error? (Java.buildClass m.template ⟨"", m.template.className⟩) := by
  unfold CheckReport.ofManifest
  dsimp only
  cases Java.buildClass m.template ⟨"", m.template.className⟩ <;> rfl

/-- **A check tells what becomes of a request** for the class of its manifest. -/
theorem foretold_generate (path : String) (m : Manifest) {σ : Type}
    (publish : Artifact → StateM σ (Except WriteError Unit)) (state : σ) {r : Request}
    (hclass : r.className = m.template.className) :
    Foretold (CheckReport.ofManifest path m) m.template r
      (generate (Strategy.structured.render m.template) publish r state).1 := by
  have hrefused : ∀ e, (generate (Strategy.structured.render m.template) publish r state).1 =
      .error (.invalidName e) ↔ Java.buildClass m.template r = .error e :=
    generate_structured_refused_iff publish state
  refine ⟨fun hnone => ?_, ?_, fun e hsome => ?_⟩
  · -- the class was built in the unnamed package
    rw [error_ofManifest, error?_eq_none_iff, ← hclass] at hnone
    obtain ⟨c, hc⟩ := exists_of_isOk hnone
    rw [exists_render_structured_iff]
    exact Java.exists_buildClass_iff hc
  · -- the two conditions are read off the same class
    simp only [hrefused, exists_render_structured_iff]
    cases Java.buildClass m.template r <;> simp
  · rw [error_ofManifest, ← hclass] at hsome
    -- the report tells of the first offence, so the class could not be built
    have herror : Java.buildClass m.template ⟨"", r.className⟩ = .error e := by
      cases hbuild : Java.buildClass m.template ⟨"", r.className⟩ with
      | error e' =>
        rw [hbuild] at hsome
        rw [Option.some.inj hsome]
      | ok c =>
        rw [hbuild] at hsome
        contradiction
    simp only [hrefused]
    -- the package is checked first, so its own offence hides the other
    by_cases hpackage : Java.IsPackage r.package
    · exact ⟨_, Java.buildClass_of_unnamed_error herror hpackage, fun _ => ⟨rfl, rfl, rfl, rfl⟩⟩
    · obtain ⟨e', he'⟩ := Java.exists_buildClass_error (t := m.template) hpackage
      exact ⟨e', he', fun h => absurd h hpackage⟩

end

/-! ### The whole feed -/

/-- **A check foretells a run.** It counts just the declarations that a pass accounts for, with
either strategy and wherever the artifacts go. With the structured strategy it tells, of every
declaration that is the first of its package in its round, whether it is refused: `results` are
what became of the declarations with the marker, and the outcome of the round is made of them. -/
theorem check_foretells (path feedPath : String) (m : Manifest) (feed : Feed) {σ τ : Type}
    (area : OutputArea σ τ) :
    let config := PassConfig.ofManifest m
    (∀ (s : Strategy) (state : σ),
      (FeedSummary.ofFeed feedPath m.generator.marker feed).matching =
        total (fun o => o.written.length + o.failures.length)
          (runRounds config (s.render m.template) area.publish feed.rounds state).1) ∧
    ∀ round ∈ feed.rounds, ∀ state : σ, ∃ results : List (Except GenerateError String),
      let outcome :=
        (runRound config (Strategy.structured.render m.template) area.publish round state).1
      outcome.written = results.filterMap Except.toOption ∧
      outcome.failures = results.filterMap error? ∧
      results.length = (config.matching round).length ∧
      ∀ (i : Nat) (d : Declaration) (r : Request), (config.matching round)[i]? = some (d, r) →
        (∀ e ∈ (config.matching round).take i, e.1.package ≠ d.package) →
        r = ⟨d.package, m.template.className⟩ ∧
        ∃ result, results[i]? = some result ∧
          Foretold (CheckReport.ofManifest path m) m.template r result := by
  intro config
  refine ⟨fun s state => matching_ofFeed config _ _ feedPath feed state, ?_⟩
  intro round _ state
  obtain ⟨results, final, hrun, hanswered⟩ :=
    answered_runRound config (Strategy.structured.render m.template) area.publish round state
  rw [hrun]
  refine ⟨results, written_ofResults results, failures_ofResults results, hanswered.length, ?_⟩
  intro i d r hi hfirst
  have hmem : (d, r) ∈ config.matching round := List.mem_of_getElem? hi
  obtain rfl : r = ⟨d.package, m.template.className⟩ := request_of_mem_matching _ hmem
  refine ⟨rfl, ?_⟩
  rcases hanswered.result_at hi with ⟨hbefore, -⟩ | ⟨-, s, s', result, hgenerate, hresult⟩
  · -- no declaration before this one is of its package
    obtain ⟨e, he, hpackage⟩ := hbefore.resolve_left List.not_mem_nil
    exact absurd hpackage (hfirst e he)
  · -- the declaration is the first of its package, so it was generated in some state
    have hforetold := foretold_generate path m area.publish s
      (r := ⟨d.package, m.template.className⟩) rfl
    rw [hgenerate] at hforetold
    exact ⟨result, hresult, hforetold⟩

/-- A field named by a reserved word is found by a check, and it is what a run stumbles over. -/
theorem check_foretells_reserved :
    let m : Manifest := ⟨⟨"m", .structured⟩, { className := "C", fields := [⟨"class", "int", []⟩] }⟩
    let round : Round := ⟨[⟨"n", "a", none⟩, ⟨"m", "a", some "E"⟩, ⟨"m", "a", none⟩]⟩
    let render := Strategy.structured.render m.template
    let outcome := (runRound (.ofManifest m) render MemoryArea.output.publish round {}).1
    ∃ e, (CheckReport.ofManifest "etch.toml" m).error = some e ∧
      (FeedSummary.ofFeed "rounds.toml" "m" ⟨[round]⟩).matching =
        outcome.written.length + outcome.failures.length ∧
      .invalidName (e.within "a.C") ∈ outcome.failures := by
  intro m round render outcome
  obtain ⟨hcount, hrounds⟩ :=
    check_foretells "etch.toml" "rounds.toml" m ⟨[round]⟩ MemoryArea.output
  obtain ⟨results, -, hfailures, -, hfirsts⟩ := hrounds round List.mem_cons_self {}
  -- the first declaration with the marker
  obtain ⟨-, result, hresult, hforetold⟩ := hfirsts 0 ⟨"m", "a", some "E"⟩ ⟨"a", "C"⟩ rfl
    fun _ he => absurd he List.not_mem_nil
  have herror : (CheckReport.ofManifest "etch.toml" m).error =
      some ⟨"C", .fieldName, "class", .identifier .reserved⟩ := by decide +kernel
  obtain ⟨e', rfl, hsame⟩ := hforetold.wrong _ herror
  obtain ⟨rfl, -⟩ := hsame (Or.inr (by decide +kernel))
  refine ⟨_, herror, hcount .structured {}, ?_⟩
  rw [hfailures]
  exact List.mem_filterMap.2 ⟨_, List.mem_of_getElem? hresult, rfl⟩

end Stencil
