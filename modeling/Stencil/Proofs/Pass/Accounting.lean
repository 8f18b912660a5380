import Stencil.Output.Probe
import Stencil.Pass
import Stencil.Proofs.Success

/-!
# What a pass accounts for

A pass answers the declarations with its marker one after the other, and whatever becomes of one of
them, the next is answered too. `Answered` is the relation between what was asked and what came of
it, one case for each thing that a step can do: it refuses a declaration whose package was asked
for before, or it generates. `answered_generateAll` says that a run is one of these, and each fact
about a run is an induction over `Answered`, in which the packages that were asked for are
remembered as packages.

The program remembers names instead. That these are as good rests on `qualifiedName_inj`: for a
fixed class name, the qualified name tells the package.

`runRound_accounts` puts the facts together.
-/

namespace Stencil

/-! ### Names tell packages -/

/-- **The package of a qualified name is determined** once the name in the package is, also where
the package is the unnamed one or has the name for a part. -/
theorem qualifiedName_inj {p p' name : String} (h : qualifiedName p name = qualifiedName p' name) :
    p = p' := by
  -- a name behind a dot is longer than the name
  have hdotted : ∀ q : String, q ++ "." ++ name ≠ name := by
    intro q hq
    have hlength := congrArg (fun s => s.toList.length) hq
    simp only [String.toList_append, List.length_append] at hlength
    have hdot : ".".toList.length = 1 := rfl
    omega
  unfold qualifiedName at h
  split at h
  · next hp =>
    split at h
    · next hp' => rw [String.isEmpty_iff.1 hp, String.isEmpty_iff.1 hp']
    · exact absurd h.symm (hdotted p')
  · split at h
    · exact absurd h (hdotted p)
    · -- both are named: the dot and the name are cut off
      rw [← String.toList_inj] at h ⊢
      simp only [String.toList_append] at h
      exact List.append_cancel_right (List.append_cancel_right h)

/-- A package is among others exactly if its name is among theirs. -/
theorem mem_map_qualifiedName {p name : String} {packages : List String} :
    qualifiedName p name ∈ packages.map (qualifiedName · name) ↔ p ∈ packages := by
  constructor
  · intro h
    obtain ⟨q, hq, hname⟩ := List.mem_map.1 h
    rwa [← qualifiedName_inj hname]
  · exact fun h => List.mem_map_of_mem h

/-! ### First of their kind -/

/-- The items that are the first with their key, in order. -/
def firstsBy {α κ : Type} [DecidableEq κ] (key : α → κ) : List α → List α
  | [] => []
  | a :: rest => a :: (firstsBy key rest).filter (key · ≠ key a)

section

variable {α κ : Type} [DecidableEq κ] {key : α → κ} {a : α} {earlier : List κ}

theorem firstsBy_cons (rest : List α) :
    firstsBy key (a :: rest) = a :: (firstsBy key rest).filter (key · ≠ key a) := rfl

/-- An item whose key is known is not among the firsts with unknown keys. -/
theorem filter_firstsBy_known (h : key a ∈ earlier) (rest : List α) :
    (firstsBy key (a :: rest)).filter (key · ∉ earlier) =
      (firstsBy key rest).filter (key · ∉ key a :: earlier) := by
  rw [firstsBy_cons, List.filter_cons_of_neg (by simp [h]), List.filter_filter]
  refine List.filter_congr fun b _ => ?_
  rw [← Bool.decide_and, decide_eq_decide, List.mem_cons, not_or, and_comm]

/-- An item whose key is unknown is the first of the firsts with unknown keys. -/
theorem filter_firstsBy_unknown (h : key a ∉ earlier) (rest : List α) :
    (firstsBy key (a :: rest)).filter (key · ∉ earlier) =
      a :: (firstsBy key rest).filter (key · ∉ key a :: earlier) := by
  rw [firstsBy_cons, List.filter_cons_of_pos (by simp [h]), List.filter_filter]
  refine congrArg _ (List.filter_congr fun b _ => ?_)
  rw [← Bool.decide_and, decide_eq_decide, List.mem_cons, not_or, and_comm]

end

/-! ### Steps -/

section

variable {σ : Type} {render : Request → Except GenerateError Artifact}
  {publish : Artifact → StateM σ (Except WriteError Unit)}

theorem generate_of_error {r : Request} {e : GenerateError} (h : render r = .error e) (state : σ) :
    generate render publish r state = (.error e, state) := by
  unfold generate
  rw [h]
  rfl

theorem generate_of_ok {r : Request} {a : Artifact} (h : render r = .ok a) (state : σ) :
    generate render publish r state =
      (((publish a state).1.mapError .write).map fun _ => a.name, (publish a state).2) := by
  unfold generate
  rw [h]
  dsimp only [bind, StateT.bind]
  rcases publish a state with ⟨_ | _, next⟩ <;> rfl

/-- What generation succeeds with is the name of what was rendered. -/
theorem render_of_generate_ok {r : Request} {state next : σ} {name : String}
    (h : generate render publish r state = (.ok name, next)) :
    ∃ a, render r = .ok a ∧ a.name = name := by
  cases hr : render r with
  | error e =>
    rw [generate_of_error hr] at h
    cases h
  | ok a =>
    refine ⟨a, rfl, ?_⟩
    rw [generate_of_ok hr] at h
    have hname := (Prod.ext_iff.1 h).1
    -- the name is told only if the artifact is published
    cases hp : (publish a state).1 with
    | error e =>
      rw [hp] at hname
      cases hname
    | ok _ =>
      rw [hp] at hname
      exact Except.ok.inj hname

/-- Generation calls a request a duplicate exactly if its rendering does. -/
theorem generate_duplicate_iff {r : Request} {state : σ} {name : String}
    {declaration : Option String} :
    (generate render publish r state).1 = .error (.duplicate name declaration) ↔
      render r = .error (.duplicate name declaration) := by
  cases hr : render r with
  | error e =>
    rw [generate_of_error hr]
    exact ⟨fun h => by rw [Except.error.inj h], fun h => by rw [Except.error.inj h]⟩
  | ok a =>
    rw [generate_of_ok hr]
    refine ⟨fun h => ?_, fun h => by contradiction⟩
    cases hp : (publish a state).1 <;> rw [hp] at h <;> cases h

/-- A request for a name that was asked for is refused, and nothing changes. -/
theorem generateAll_seen {seen : List String} {d : Declaration} {r : Request}
    (h : r.qualifiedName ∈ seen) (rest : List (Declaration × Request)) (state : σ) :
    generateAll render publish seen ((d, r) :: rest) state =
      let later := generateAll render publish (r.qualifiedName :: seen) rest state
      (.error (.duplicate r.qualifiedName (some d.displayName)) :: later.1, later.2) := by
  rw [generateAll]
  dsimp only
  rw [if_pos h]
  rfl

/-- Every other request is tried. -/
theorem generateAll_unseen {seen : List String} {d : Declaration} {r : Request}
    (h : r.qualifiedName ∉ seen) (rest : List (Declaration × Request)) (state : σ) :
    generateAll render publish seen ((d, r) :: rest) state =
      let now := generate render publish r state
      let later := generateAll render publish (r.qualifiedName :: seen) rest now.2
      (now.1 :: later.1, later.2) := by
  rw [generateAll]
  dsimp only
  rw [if_neg h]
  rfl

/-- **What came of declarations with their requests**, given the packages that were asked for
earlier: the results, one for each, and how the state changed. -/
inductive Answered (render : Request → Except GenerateError Artifact)
    (publish : Artifact → StateM σ (Except WriteError Unit)) :
    List String → List (Declaration × Request) → σ → List (Except GenerateError String) → σ → Prop
  | none {earlier : List String} {state : σ} : Answered render publish earlier [] state [] state
  /-- A declaration of a package that was asked for is refused, and nothing changes. -/
  | repeated {earlier : List String} {d : Declaration} {r : Request}
      {rest : List (Declaration × Request)} {state final : σ}
      {results : List (Except GenerateError String)} (h : d.package ∈ earlier)
      (hrest : Answered render publish (d.package :: earlier) rest state results final) :
      Answered render publish earlier ((d, r) :: rest) state
        (.error (.duplicate r.qualifiedName (some d.displayName)) :: results) final
  /-- Every other declaration is rendered and published. -/
  | first {earlier : List String} {d : Declaration} {r : Request}
      {rest : List (Declaration × Request)} {state next final : σ}
      {result : Except GenerateError String} {results : List (Except GenerateError String)}
      (h : d.package ∉ earlier) (hresult : generate render publish r state = (result, next))
      (hrest : Answered render publish (d.package :: earlier) rest next results final) :
      Answered render publish earlier ((d, r) :: rest) state (result :: results) final

/-- **A run answers what it is asked**, if all requests are for one class name. -/
theorem answered_generateAll {className : String} (asked : List (Declaration × Request))
    (hasked : ∀ a ∈ asked, a.2 = ⟨a.1.package, className⟩) (earlier : List String) (state : σ) :
    Answered render publish earlier asked state
      (generateAll render publish (earlier.map (qualifiedName · className)) asked state).1
      (generateAll render publish (earlier.map (qualifiedName · className)) asked state).2 := by
  induction asked generalizing earlier state with
  | nil => exact .none
  | cons a rest ih =>
    obtain ⟨d, r⟩ := a
    obtain rfl : r = ⟨d.package, className⟩ := hasked _ List.mem_cons_self
    have ih' := fun next => ih (fun a ha => hasked a (List.mem_cons_of_mem _ ha))
      (d.package :: earlier) next
    -- the name was seen exactly if the package was asked for
    have hseen : (Request.mk d.package className).qualifiedName ∈
        earlier.map (qualifiedName · className) ↔ d.package ∈ earlier := mem_map_qualifiedName
    by_cases h : d.package ∈ earlier
    · rw [generateAll_seen (hseen.2 h)]
      exact .repeated h (ih' state)
    · rw [generateAll_unseen ((not_congr hseen).2 h)]
      exact .first h rfl (ih' _)

/-! ### What every run has -/

theorem mapM_cons_apply {α β : Type} (f : α → StateM σ β) (a : α) (l : List α) (state : σ) :
    (a :: l).mapM f state =
      let now := f a state
      let later := l.mapM f now.2
      (now.1 :: later.1, later.2) := by
  rw [List.mapM_cons]
  rfl

namespace Answered

variable {earlier : List String} {asked : List (Declaration × Request)} {state final : σ}
  {results : List (Except GenerateError String)}

theorem length (h : Answered render publish earlier asked state results final) :
    results.length = asked.length := by
  induction h with
  | none => rfl
  | repeated _ _ ih => rw [List.length_cons, List.length_cons, ih]
  | first _ _ _ ih => rw [List.length_cons, List.length_cons, ih]

/-- A package was asked for, before all of some declarations or by one of the first `i`. -/
def AskedBefore (earlier : List String) (asked : List (Declaration × Request)) (i : Nat)
    (package : String) : Prop :=
  package ∈ earlier ∨ ∃ e ∈ asked.take i, e.1.package = package

theorem askedBefore_zero {package : String} :
    AskedBefore earlier asked 0 package ↔ package ∈ earlier := by
  unfold AskedBefore
  rw [List.take_zero]
  exact ⟨fun h => h.resolve_right fun ⟨e, he, _⟩ => List.not_mem_nil he, Or.inl⟩

theorem askedBefore_succ {a : Declaration × Request} {i : Nat} {package : String} :
    AskedBefore earlier (a :: asked) (i + 1) package ↔
      AskedBefore (a.1.package :: earlier) asked i package := by
  unfold AskedBefore
  simp only [List.take_succ_cons, List.mem_cons, exists_eq_or_imp]
  rw [or_assoc, or_left_comm, @eq_comm _ a.1.package]

/-- **Each result is that of a refusal or of a generation**, as the package of its declaration was
asked for before or not. -/
theorem result_at (h : Answered render publish earlier asked state results final) {i : Nat}
    {d : Declaration} {r : Request} (hi : asked[i]? = some (d, r)) :
    (AskedBefore earlier asked i d.package ∧
      results[i]? = some (.error (.duplicate r.qualifiedName (some d.displayName)))) ∨
    (¬ AskedBefore earlier asked i d.package ∧
      ∃ s s' result, generate render publish r s = (result, s') ∧ results[i]? = some result) := by
  induction h generalizing i with
  | none => rw [List.getElem?_nil] at hi; contradiction
  | repeated hknown hrest ih =>
    -- the first declaration is the one that is answered here, the others come after it
    cases i with
    | zero =>
      cases hi
      exact Or.inl ⟨askedBefore_zero.2 hknown, rfl⟩
    | succ i =>
      rw [askedBefore_succ]
      exact ih hi
  | first hnew hresult hrest ih =>
    cases i with
    | zero =>
      cases hi
      exact Or.inr ⟨(not_congr askedBefore_zero).2 hnew, _, _, _, hresult, rfl⟩
    | succ i =>
      rw [askedBefore_succ]
      exact ih hi

/-- What is published has the name that was asked for. -/
theorem name_at (hname : ∀ r a, render r = .ok a → a.name = r.qualifiedName)
    (h : Answered render publish earlier asked state results final) {i : Nat} {name : String}
    (hresult : results[i]? = some (.ok name)) :
    ∃ d r, asked[i]? = some (d, r) ∧ name = r.qualifiedName := by
  obtain ⟨hi, -⟩ := List.getElem?_eq_some_iff.1 hresult
  rw [h.length] at hi
  refine ⟨_, _, List.getElem?_eq_getElem hi, ?_⟩
  -- a request that was refused has no name as its result
  rcases h.result_at (List.getElem?_eq_getElem hi) with
    ⟨-, hi'⟩ | ⟨-, s, s', result, hgenerate, hi'⟩
  · rw [hi'] at hresult
    cases hresult
  · rw [hi'] at hresult
    cases hresult
    obtain ⟨a, ha, rfl⟩ := render_of_generate_ok hgenerate
    exact hname _ a ha

/-- **What is published has a name of its own**: one of a package that was not asked for before. -/
theorem nodup {className : String}
    (hname : ∀ r a, render r = .ok a → a.name = r.qualifiedName)
    (h : Answered render publish earlier asked state results final)
    (hasked : ∀ a ∈ asked, a.2 = ⟨a.1.package, className⟩) :
    (results.filterMap Except.toOption).Nodup ∧
      ∀ name ∈ results.filterMap Except.toOption,
        ∃ p ∉ earlier, name = qualifiedName p className := by
  induction h with
  | none => exact ⟨List.nodup_nil, fun name hmem => absurd hmem List.not_mem_nil⟩
  | repeated hknown hrest ih =>
    obtain ⟨hdistinct, hfresh⟩ := ih fun a ha => hasked a (List.mem_cons_of_mem _ ha)
    rw [List.filterMap_cons_none (by rfl)]
    -- what is written later has names that are new also without the package of this one
    refine ⟨hdistinct, fun name hmem => ?_⟩
    obtain ⟨p, hp, hpname⟩ := hfresh name hmem
    exact ⟨p, fun hmem => hp (List.mem_cons_of_mem _ hmem), hpname⟩
  | @first earlier d r rest state next final result results hnew hresult hrest ih =>
    obtain ⟨hdistinct, hfresh⟩ := ih fun a ha => hasked a (List.mem_cons_of_mem _ ha)
    have hweaker : ∀ name ∈ results.filterMap Except.toOption,
        ∃ p ∉ earlier, name = qualifiedName p className := by
      intro name hmem
      obtain ⟨p, hp, hpname⟩ := hfresh name hmem
      exact ⟨p, fun hmem => hp (List.mem_cons_of_mem _ hmem), hpname⟩
    cases result with
    | error e =>
      rw [List.filterMap_cons_none (by rfl)]
      exact ⟨hdistinct, hweaker⟩
    | ok name =>
      -- the name is that of the package of this declaration, which no later name has
      obtain ⟨a, ha, rfl⟩ := render_of_generate_ok hresult
      have hown : a.name = qualifiedName d.package className := by
        have hrequest : r = ⟨d.package, className⟩ := hasked (d, r) List.mem_cons_self
        rw [hname r a ha, hrequest]
        rfl
      rw [List.filterMap_cons_some (by rfl)]
      refine ⟨List.nodup_cons.2 ⟨fun hmem => ?_, hdistinct⟩, fun name hmem => ?_⟩
      · obtain ⟨p, hp, hpname⟩ := hfresh a.name hmem
        rw [hown] at hpname
        exact hp (qualifiedName_inj hpname ▸ List.mem_cons_self)
      · rcases List.mem_cons.1 hmem with rfl | hmem
        · exact ⟨d.package, hnew, hown⟩
        · exact hweaker name hmem

/-- **The first declarations of their packages are generated one after the other**, and nothing
else happens. -/
theorem mapM_firsts (h : Answered render publish earlier asked state results final) :
    (((firstsBy (·.1.package) asked).filter (·.1.package ∉ earlier)).mapM fun a =>
        generate render publish a.2) state =
      (((firstsBy (·.1.1.package) (asked.zip results)).filter
        (·.1.1.package ∉ earlier)).map (·.2), final) := by
  induction h with
  | none => rfl
  | repeated hknown hrest ih =>
    -- a refusal drops out on both sides
    rw [List.zip_cons_cons, filter_firstsBy_known (by exact hknown),
      filter_firstsBy_known (by exact hknown)]
    exact ih
  | first hnew hresult hrest ih =>
    -- a generation comes first on both sides
    rw [List.zip_cons_cons, filter_firstsBy_unknown (by exact hnew),
      filter_firstsBy_unknown (by exact hnew), mapM_cons_apply, hresult]
    dsimp only
    rw [ih]
    rfl

end Answered

end

/-! ### The account -/

theorem written_ofResults (results : List (Except GenerateError String)) :
    (RoundOutcome.ofResults results).written = results.filterMap Except.toOption :=
  congrArg (List.filterMap · results) (funext fun result => by cases result <;> rfl)

theorem failures_ofResults (results : List (Except GenerateError String)) :
    (RoundOutcome.ofResults results).failures = results.filterMap error? :=
  congrArg (List.filterMap · results) (funext fun result => by cases result <;> rfl)

theorem length_matching (config : PassConfig) (round : Round) :
    (config.matching round).length =
      round.declarations.countP (·.marker = config.marker) := by
  unfold PassConfig.matching
  rw [List.length_map, ← List.countP_eq_length_filter]
  rfl

theorem request_of_mem_matching {config : PassConfig} {round : Round} :
    ∀ a ∈ config.matching round, a.2 = ⟨a.1.package, config.className⟩ := by
  intro a ha
  obtain ⟨d, -, rfl⟩ := List.mem_map.1 ha
  rfl

variable {σ : Type}

/-- No strategy calls a request a duplicate: it is given one request at a time. -/
theorem Strategy.render_ne_duplicate (s : Strategy) (t : ClassTemplate) (r : Request)
    (name : String) (element : Option String) :
    s.render t r ≠ .error (.duplicate name element) := by
  cases s with
  | structured =>
    unfold render
    dsimp only
    split <;> simp
  | rawText => exact fun h => nomatch h

/-- **The account of a round**: `results` tells of every declaration with the marker, in order, what
became of it, and the outcome and the final state of the run are just these results. -/
structure Accounts (config : PassConfig) (render : Request → Except GenerateError Artifact)
    (publish : Artifact → StateM σ (Except WriteError Unit)) (round : Round) (state : σ)
    (results : List (Except GenerateError String)) (outcome : RoundOutcome) (final : σ) :
    Prop where
  /-- There is one result for each declaration with the marker. -/
  length : results.length = (config.matching round).length
  /-- What was written and what failed are the results, in order. -/
  written : outcome.written = results.filterMap Except.toOption
  failures : outcome.failures = results.filterMap error?
  total : outcome.written.length + outcome.failures.length =
    round.declarations.countP (·.marker = config.marker)
  /-- What was written has the name that was asked for. -/
  named : ∀ (i : Nat) (name : String), results[i]? = some (.ok name) →
    ∃ d r, (config.matching round)[i]? = some (d, r) ∧ name = r.qualifiedName
  /-- Nothing was written twice. -/
  nodup : outcome.written.Nodup
  /-- A declaration is refused if an earlier one is of the same package. -/
  refused : ∀ (i : Nat) (d : Declaration) (r : Request),
    (config.matching round)[i]? = some (d, r) →
    (∃ e ∈ (config.matching round).take i, e.1.package = d.package) →
      results[i]? = some (.error (.duplicate r.qualifiedName (some d.displayName)))
  /-- A declaration is reported as a duplicate exactly if an earlier one is of the same package, or
  the strategy itself calls its request a duplicate, which none of `Strategy` does. -/
  duplicate_iff : ∀ (i : Nat) (d : Declaration) (r : Request),
    (config.matching round)[i]? = some (d, r) →
      ((∃ name element, results[i]? = some (.error (.duplicate name element))) ↔
        (∃ e ∈ (config.matching round).take i, e.1.package = d.package) ∨
          ∃ name element, render r = .error (.duplicate name element))
  /-- All declarations that are the first of their package are rendered and published, once each
  and in order, and these are their results. Nothing else changes the state. -/
  generated : ((firstsBy (·.1.package) (config.matching round)).mapM fun a =>
      generate render publish a.2) state =
    ((firstsBy (·.1.1.package) ((config.matching round).zip results)).map (·.2), final)
  /-- The round is fine exactly if nothing failed, so if every result is a success. -/
  isOk : (outcome.isOk ↔ outcome.failures = []) ∧ (outcome.isOk ↔ ∀ result ∈ results, result.isOk)
  /-- The round is passed over exactly if it is empty. -/
  claimed : outcome.claimed = false ↔ round.declarations = []

/-- A round is what its declarations with the marker are answered with, and none have one if there
are none. -/
theorem runRound_eq (config : PassConfig) (render : Request → Except GenerateError Artifact)
    (publish : Artifact → StateM σ (Except WriteError Unit)) (round : Round) (state : σ) :
    runRound config render publish round state =
      let run := generateAll render publish [] (config.matching round) state
      ({ RoundOutcome.ofResults run.1 with claimed := !round.declarations.isEmpty }, run.2) := by
  unfold runRound
  -- without declarations there is nothing to match, and the outcome is that of an empty list
  split
  · next hempty =>
    unfold PassConfig.matching
    rw [List.isEmpty_iff.1 hempty]
    rfl
  · next hsome =>
    rw [Bool.eq_false_iff.2 hsome]
    rfl

/-- A round answers its declarations with the marker, if it has any. -/
theorem answered_runRound (config : PassConfig) (render : Request → Except GenerateError Artifact)
    (publish : Artifact → StateM σ (Except WriteError Unit)) (round : Round) (state : σ) :
    ∃ results final,
      runRound config render publish round state =
        ({ RoundOutcome.ofResults results with claimed := !round.declarations.isEmpty }, final) ∧
      Answered render publish [] (config.matching round) state results final :=
  ⟨_, _, runRound_eq config render publish round state,
    answered_generateAll _ request_of_mem_matching [] state⟩

/-- Rounds are passed over one after the other. -/
theorem runRounds_cons (config : PassConfig) (render : Request → Except GenerateError Artifact)
    (publish : Artifact → StateM σ (Except WriteError Unit)) (round : Round) (rest : List Round)
    (state : σ) :
    runRounds config render publish (round :: rest) state =
      let now := runRound config render publish round state
      let later := runRounds config render publish rest now.2
      (now.1 :: later.1, later.2) := rfl

/-- **A pass accounts for every declaration with its marker**, for any strategy whose artifacts have
the names of their requests and any way of publishing them. -/
theorem runRound_accounts {render : Request → Except GenerateError Artifact}
    (hname : ∀ r a, render r = .ok a → a.name = r.qualifiedName) (config : PassConfig)
    (publish : Artifact → StateM σ (Except WriteError Unit)) (round : Round) (state : σ) :
    ∃ results, Accounts config render publish round state results
      (runRound config render publish round state).1
      (runRound config render publish round state).2 := by
  obtain ⟨results, final, hrun, hanswered⟩ := answered_runRound config render publish round state
  have hlength : results.length = (config.matching round).length := hanswered.length
  rw [hrun]
  refine ⟨results, ?_⟩
  exact
    { length := hlength
      written := written_ofResults results
      failures := failures_ofResults results
      total := by
        change (RoundOutcome.ofResults results).written.length +
          (RoundOutcome.ofResults results).failures.length = _
        rw [written_ofResults, failures_ofResults, length_toOption_add_error?, hlength,
          length_matching]
      named := fun i name hresult => hanswered.name_at hname hresult
      -- the names are those of distinct packages, and the driver asks for one class name
      nodup := by
        change (RoundOutcome.ofResults results).written.Nodup
        rw [written_ofResults]
        exact (hanswered.nodup hname request_of_mem_matching).1
      refused := by
        intro i d r hi hearlier
        -- the round begins with no package asked for, so each repetition has an earlier declaration
        rcases hanswered.result_at hi with ⟨-, hresult⟩ | ⟨hnot, -⟩
        · exact hresult
        · exact absurd (Or.inr hearlier) hnot
      duplicate_iff := by
        intro i d r hi
        rcases hanswered.result_at hi with ⟨hbefore, hresult⟩ | ⟨hnot, s, s', result, hrun, hresult⟩
        · have hearlier := hbefore.resolve_left List.not_mem_nil
          exact ⟨fun _ => Or.inl hearlier, fun _ => ⟨_, _, hresult⟩⟩
        · -- what was generated is a duplicate if the strategy says so
          have hown : ∀ name element, result = .error (.duplicate name element) ↔
              render r = .error (.duplicate name element) := by
            intro name element
            rw [← generate_duplicate_iff, hrun]
          rw [hresult, or_iff_right fun hearlier => hnot (Or.inr hearlier)]
          simp only [Option.some.injEq, hown]
      generated := by
        -- nothing was asked for before the round, so no first drops out
        have hfirsts := hanswered.mapM_firsts
        rwa [List.filter_eq_self.2 fun _ _ => decide_eq_true List.not_mem_nil,
          List.filter_eq_self.2 fun _ _ => decide_eq_true List.not_mem_nil] at hfirsts
      isOk := by
        refine ⟨List.isEmpty_iff, ?_⟩
        change (RoundOutcome.ofResults results).failures.isEmpty ↔ _
        rw [failures_ofResults, List.isEmpty_iff, List.filterMap_eq_nil_iff]
        exact forall_congr' fun result => imp_congr_right fun _ => error?_eq_none_iff result
      claimed := by
        change (!round.declarations.isEmpty) = false ↔ _
        rw [Bool.not_eq_false', List.isEmpty_iff] }

/-- **Under a strategy, a declaration is reported as a duplicate exactly if an earlier one is of the
same package.** -/
theorem Accounts.duplicate_iff_earlier {s : Strategy} {t : ClassTemplate} {config : PassConfig}
    {publish : Artifact → StateM σ (Except WriteError Unit)} {round : Round} {state final : σ}
    {results : List (Except GenerateError String)} {outcome : RoundOutcome}
    (h : Accounts config (s.render t) publish round state results outcome final) {i : Nat}
    {d : Declaration} {r : Request} (hi : (config.matching round)[i]? = some (d, r)) :
    (∃ name element, results[i]? = some (.error (.duplicate name element))) ↔
      ∃ e ∈ (config.matching round).take i, e.1.package = d.package := by
  rw [h.duplicate_iff i d r hi]
  refine or_iff_left ?_
  rintro ⟨name, element, hrender⟩
  exact s.render_ne_duplicate t r name element hrender

/-- Two declarations of one package and one of another, where the first cannot be written. -/
theorem runRound_accounts_twins :
    let twins : Round := ⟨[⟨"m", "a", some "First"⟩, ⟨"other", "a", none⟩,
      ⟨"m", "a", some "Second"⟩, ⟨"m", "a.C", none⟩]⟩
    let area : ProbeArea := { plan := { mishap := some .writing, names := ["a.C"] } }
    ∃ results outcome final,
      runRound ⟨"m", "C"⟩ (Strategy.rawText.render .default) ProbeArea.output.publish twins area =
        (outcome, final) ∧
      outcome.written.length + outcome.failures.length = 3 ∧
      results[1]? = some (Except.error (GenerateError.duplicate "a.C" (some "a.Second"))) ∧
      (¬ ∃ name element, results[2]? = some (Except.error (GenerateError.duplicate name element))) ∧
      Accounts ⟨"m", "C"⟩ (Strategy.rawText.render .default) ProbeArea.output.publish twins area
        results outcome final := by
  intro twins area
  obtain ⟨results, h⟩ := runRound_accounts
    (fun _ _ hrender => Strategy.name_of_render (s := .rawText) (t := .default) hrender)
    ⟨"m", "C"⟩ ProbeArea.output.publish twins area
  refine ⟨results, _, _, rfl, h.total, ?_, ?_, h⟩
  · exact h.refused 1 ⟨"m", "a", some "Second"⟩ ⟨"a", "C"⟩ rfl
      ⟨(⟨"m", "a", some "First"⟩, ⟨"a", "C"⟩), List.mem_cons_self, rfl⟩
  · -- the last package is not that of the first two, though it has the name of their class
    rw [h.duplicate_iff_earlier (i := 2) (d := ⟨"m", "a.C", none⟩) (r := ⟨"a.C", "C"⟩) rfl]
    decide

end Stencil
