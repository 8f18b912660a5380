import Stencil.Output.Memory
import Stencil.Proofs.Pass.Accounting

/-!
# What is said of repeated requests

A round refuses a request that it has seen before, and says of it that its artifact was produced
already. The round remembers what was asked for, though, and not what came of it: the artifact was
produced exactly if the request was answered with success when it was made for the first time, and
else it has failed, and is nowhere.

`PassConfig.answers` are the first requests of a round, each with what came of it. They are the
firsts of all requests with all results (`answers_eq`), so each result in the account of a round is
either an answer or a refusal that stands behind an answer to the same request
(`Answered.of_split`). **What is said of repeated requests is true exactly if all that were made
more than once were answered with success** (`duplicates_written_iff`), and false of two
declarations in one package of an area that cannot be written (`not_duplicates_written_readOnly`).
-/

namespace Stencil

/-! ### Firsts -/

section

variable {α β κ : Type} [DecidableEq κ] {key : α → κ} {a b : α} {l : List α}

/-- An item is among the firsts exactly if no item before it has its key. -/
theorem mem_firstsBy_iff :
    a ∈ firstsBy key l ↔
      ∃ before after, l = before ++ a :: after ∧ ∀ b ∈ before, key b ≠ key a := by
  induction l with
  | nil =>
    refine iff_of_false List.not_mem_nil ?_
    rintro ⟨before, after, h, -⟩
    exact List.append_ne_nil_of_right_ne_nil _ (List.cons_ne_nil _ _) h.symm
  | cons c l ih =>
    -- the head is a first, and so is any later one without the key of the head
    rw [firstsBy_cons, List.mem_cons, List.mem_filter, ih, decide_eq_true_eq]
    constructor
    · rintro (rfl | ⟨⟨before, after, rfl, hbefore⟩, hc⟩)
      · exact ⟨[], l, rfl, List.forall_mem_nil _⟩
      · exact ⟨c :: before, after, rfl, List.forall_mem_cons.2 ⟨Ne.symm hc, hbefore⟩⟩
    · rintro ⟨before, after, hl, hbefore⟩
      cases before with
      | nil => exact Or.inl (List.cons.inj hl).1.symm
      | cons d before =>
        obtain ⟨rfl, rfl⟩ := List.cons.inj hl
        obtain ⟨hc, hbefore⟩ := List.forall_mem_cons.1 hbefore
        exact Or.inr ⟨⟨before, after, rfl, hbefore⟩, hc.symm⟩

theorem mem_of_mem_firstsBy (h : a ∈ firstsBy key l) : a ∈ l := by
  obtain ⟨before, after, rfl, -⟩ := mem_firstsBy_iff.1 h
  exact List.mem_append_right _ List.mem_cons_self

/-- Every key has a first item. -/
theorem exists_mem_firstsBy (key : α → κ) (h : a ∈ l) : ∃ b ∈ firstsBy key l, key b = key a := by
  induction l with
  | nil => exact absurd h List.not_mem_nil
  | cons c l ih =>
    rw [firstsBy_cons]
    by_cases hc : key c = key a
    · exact ⟨c, List.mem_cons_self, hc⟩
    · obtain ⟨b, hb, hkey⟩ := ih ((List.mem_cons.1 h).resolve_left fun heq => hc (heq ▸ rfl))
      refine ⟨b, List.mem_cons_of_mem _ (List.mem_filter.2 ⟨hb, decide_eq_true ?_⟩), hkey⟩
      exact fun heq => hc (heq.symm.trans hkey)

/-- A key has one first item. -/
theorem eq_of_mem_firstsBy (ha : a ∈ firstsBy key l) (hb : b ∈ firstsBy key l)
    (h : key a = key b) : a = b := by
  induction l with
  | nil => exact absurd ha List.not_mem_nil
  | cons c l ih =>
    rw [firstsBy_cons, List.mem_cons, List.mem_filter, decide_eq_true_eq] at ha hb
    rcases ha with rfl | ⟨ha, hac⟩ <;> rcases hb with rfl | ⟨hb, hbc⟩
    · rfl
    · exact absurd h.symm hbc
    · exact absurd h hac
    · exact ih ha hb

theorem map_firstsBy (key : α → κ) (f : β → α) (l : List β) :
    (firstsBy (fun b => key (f b)) l).map f = firstsBy key (l.map f) := by
  induction l with
  | nil => rfl
  | cons b l ih =>
    rw [firstsBy_cons, List.map_cons, List.map_cons, firstsBy_cons, ← ih, List.filter_map]
    rfl

/-- An item is counted more than once if another one looks like it. -/
theorem one_lt_count_map_iff (key : α → κ) {before after : List α} :
    1 < ((before ++ a :: after).map key).count (key a) ↔ ∃ b ∈ before ++ after, key b = key a := by
  rw [List.map_append, List.map_cons, List.count_append, List.count_cons_self, ← Nat.add_assoc,
    ← List.count_append, ← List.map_append, Nat.lt_add_left_iff_pos, List.count_pos_iff,
    List.mem_map]

end

/-! ### Answers -/

section

variable {σ : Type} {render : Request → Except GenerateError Artifact}
  {publish : Artifact → StateM σ (Except WriteError Unit)} {config : PassConfig} {round : Round}
  {state final : σ} {results : List (Except GenerateError String)}

/-- **The answers of a round**: the declarations that are the first of their package, with their
requests and with what comes of them when they are generated one after the other. -/
def PassConfig.answers (config : PassConfig) (render : Request → Except GenerateError Artifact)
    (publish : Artifact → StateM σ (Except WriteError Unit)) (round : Round) (state : σ) :
    List ((Declaration × Request) × Except GenerateError String) :=
  let firsts := firstsBy (·.1.package) (config.matching round)
  firsts.zip ((firsts.mapM fun a => generate render publish a.2) state).1

theorem map_fst_zip_results
    (h : Answered render publish [] (config.matching round) state results final) :
    ((config.matching round).zip results).map Prod.fst = config.matching round :=
  List.map_fst_zip (Nat.le_of_eq h.length.symm)

/-- The answers are the firsts of all declarations with all results. -/
theorem answers_eq
    (h : Answered render publish [] (config.matching round) state results final) :
    config.answers render publish round state =
      firstsBy (·.1.1.package) ((config.matching round).zip results) := by
  -- nothing was asked for before the round, so no first drops out
  have hrun := h.mapM_firsts
  rw [List.filter_eq_self.2 fun _ _ => decide_eq_true List.not_mem_nil,
    List.filter_eq_self.2 fun _ _ => decide_eq_true List.not_mem_nil] at hrun
  refine (List.zip_of_prod ?_ ?_).symm
  · rw [map_firstsBy (fun a : Declaration × Request => a.1.package) Prod.fst,
      map_fst_zip_results h]
  · rw [hrun]

/-- **Each result is an answer or a refusal**: of a declaration and its result, with those before
them, the result is a refusal if one of those before is of the same package, and else that of a
generation. -/
theorem Answered.of_split {asked : List (Declaration × Request)} {d : Declaration} {r : Request}
    {result : Except GenerateError String}
    {before after : List ((Declaration × Request) × Except GenerateError String)}
    (h : Answered render publish [] asked state results final)
    (hsplit : asked.zip results = before ++ ((d, r), result) :: after) :
    ((∃ b ∈ before, b.1.1.package = d.package) ∧
        result = .error (.duplicate r.qualifiedName (some d.displayName))) ∨
      ((∀ b ∈ before, b.1.1.package ≠ d.package) ∧
        ∃ s, (generate render publish r s).1 = result) := by
  -- the result stands where its declaration stands
  have hat : (asked.zip results)[before.length]? = some ((d, r), result) := by
    rw [hsplit, List.getElem?_append_right (Nat.le_refl _), Nat.sub_self, List.getElem?_cons_zero]
  obtain ⟨hasked, hresult⟩ := List.getElem?_zip_eq_some.1 hat
  -- what was asked for before is what stands in the split before
  have htake : asked.take before.length = before.map Prod.fst := by
    rw [← List.map_fst_zip (Nat.le_of_eq h.length.symm), hsplit, List.map_append,
      List.take_left' (List.length_map _)]
  have hbefore : AskedBefore [] asked before.length d.package ↔
      ∃ b ∈ before, b.1.1.package = d.package := by
    unfold AskedBefore
    rw [htake, or_iff_right List.not_mem_nil]
    simp only [List.mem_map, exists_exists_and_eq_and]
  rcases h.result_at hasked with ⟨hknown, heq⟩ | ⟨hnew, s, s', result', hgenerate, heq⟩
  · exact Or.inl ⟨hbefore.1 hknown, Option.some.inj (hresult.symm.trans heq)⟩
  · refine Or.inr ⟨fun b hb hpackage => hnew (hbefore.2 ⟨b, hb, hpackage⟩), s, ?_⟩
    rw [hgenerate]
    exact Option.some.inj (heq.symm.trans hresult)

theorem exists_of_mem_results
    (h : Answered render publish [] (config.matching round) state results final)
    {result : Except GenerateError String} (hresult : result ∈ results) :
    ∃ a ∈ (config.matching round).zip results, a.2 = result := by
  have hall : ((config.matching round).zip results).map Prod.snd = results :=
    List.map_snd_zip (Nat.le_of_eq h.length)
  rw [← hall] at hresult
  exact List.mem_map.1 hresult

theorem request_of_mem_zip {a : (Declaration × Request) × Except GenerateError String}
    (h : a ∈ (config.matching round).zip results) :
    a.1.2 = ⟨a.1.1.package, config.className⟩ :=
  request_of_mem_matching _ (List.of_mem_zip h).1

end

section

variable {σ : Type} {render : Request → Except GenerateError Artifact}
  {publish : Artifact → StateM σ (Except WriteError Unit)} {config : PassConfig} {round : Round}
  {state final : σ} {results : List (Except GenerateError String)}
  {a : (Declaration × Request) × Except GenerateError String}

/-- A success is an answer, and has the name that was asked for. -/
theorem mem_answers_of_ok (hname : ∀ r a, render r = .ok a → a.name = r.qualifiedName)
    (h : Answered render publish [] (config.matching round) state results final)
    (ha : a ∈ (config.matching round).zip results) {name : String} (hok : a.2 = .ok name) :
    a ∈ config.answers render publish round state ∧ name = a.1.2.qualifiedName := by
  obtain ⟨before, after, hsplit⟩ := List.append_of_mem ha
  -- a refused repetition has no name, so this is the first of its package
  rcases h.of_split hsplit with ⟨-, hrefused⟩ | ⟨hfirst, s, hgenerate⟩
  · rw [hok] at hrefused
    contradiction
  · rw [answers_eq h]
    refine ⟨mem_firstsBy_iff.2 ⟨before, after, hsplit, hfirst⟩, ?_⟩
    obtain ⟨artifact, hrender, rfl⟩ :=
      render_of_generate_ok (Prod.ext (hgenerate.trans hok) rfl)
    exact hname _ _ hrender

/-- **What an answer asks for is written exactly if the answer is a success.** -/
theorem ok_mem_results_iff (hname : ∀ r a, render r = .ok a → a.name = r.qualifiedName)
    (h : Answered render publish [] (config.matching round) state results final)
    (ha : a ∈ config.answers render publish round state) :
    .ok a.1.2.qualifiedName ∈ results ↔ a.2.isOk := by
  have hfirst := ha
  rw [answers_eq h] at hfirst
  have hmem := mem_of_mem_firstsBy hfirst
  constructor
  · intro hwritten
    -- the success is an answer to the same request, so it is this one
    obtain ⟨b, hb, hok⟩ := exists_of_mem_results h hwritten
    obtain ⟨hanswer, hsame⟩ := mem_answers_of_ok hname h hb hok
    rw [answers_eq h] at hanswer
    rw [request_of_mem_zip hmem, request_of_mem_zip hb] at hsame
    rw [eq_of_mem_firstsBy hfirst hanswer (qualifiedName_inj hsame), hok]
    rfl
  · intro hisOk
    obtain ⟨name, hok⟩ := exists_of_isOk hisOk
    rw [← (mem_answers_of_ok hname h hmem hok).2, ← hok]
    exact (List.of_mem_zip hmem).2

theorem request_eq_of_package_eq {b : (Declaration × Request) × Except GenerateError String}
    (ha : a ∈ (config.matching round).zip results) (hb : b ∈ (config.matching round).zip results)
    (h : a.1.1.package = b.1.1.package) : a.1.2 = b.1.2 := by
  rw [request_of_mem_zip ha, request_of_mem_zip hb, h]

/-- A round asks for a package more than once. -/
def PassConfig.Repeats (config : PassConfig) (round : Round) (package : String) : Prop :=
  1 < ((config.matching round).map (·.1.package)).count package

/-- A package is asked for more than once if one of the other declarations is in it, before or
after. -/
theorem repeats_iff
    (h : Answered render publish [] (config.matching round) state results final)
    {before after : List ((Declaration × Request) × Except GenerateError String)}
    (hsplit : (config.matching round).zip results = before ++ a :: after) :
    config.Repeats round a.1.1.package ↔ ∃ b ∈ before ++ after, b.1.1.package = a.1.1.package := by
  -- the packages are the same whether or not the results stand beside them
  have hpackages : (config.matching round).map (·.1.package) =
      ((config.matching round).zip results).map (·.1.1.package) := by
    conv_lhs => rw [← map_fst_zip_results h, List.map_map]
    rfl
  unfold PassConfig.Repeats
  rw [hpackages, hsplit]
  exact one_lt_count_map_iff
    fun b : (Declaration × Request) × Except GenerateError String => b.1.1.package

/-- What is refused was answered before. -/
theorem exists_answer_of_duplicate
    (hduplicate : ∀ r name element, render r ≠ .error (.duplicate name element))
    (h : Answered render publish [] (config.matching round) state results final) {name : String}
    {element : Option String} (hmem : .error (.duplicate name element) ∈ results) :
    ∃ a ∈ config.answers render publish round state,
      a.1.2.qualifiedName = name ∧ config.Repeats round a.1.1.package := by
  obtain ⟨b, hb, hrefused⟩ := exists_of_mem_results h hmem
  obtain ⟨a, ha, hpackage⟩ := exists_mem_firstsBy (·.1.1.package) hb
  have hrequest := request_eq_of_package_eq (mem_of_mem_firstsBy ha) hb hpackage
  obtain ⟨before, after, hsplit⟩ := List.append_of_mem hb
  rcases h.of_split hsplit with ⟨⟨c, hc, hearlier⟩, hresult⟩ | ⟨-, s, hgenerate⟩
  · refine ⟨a, answers_eq h ▸ ha, ?_, ?_⟩
    · rw [hrequest]
      cases hresult.symm.trans hrefused
      rfl
    · -- the refused declaration and the one before it are both of the package
      rw [hpackage]
      exact (repeats_iff h hsplit).2 ⟨c, List.mem_append_left _ hc, hearlier⟩
  · -- a generation says nothing of duplicates
    exact absurd (generate_duplicate_iff.1 (hgenerate.trans hrefused)) (hduplicate _ _ _)

/-- What was answered and is asked for again is refused then. -/
theorem duplicate_mem_of_repeats
    (h : Answered render publish [] (config.matching round) state results final)
    (ha : a ∈ config.answers render publish round state)
    (hrepeats : config.Repeats round a.1.1.package) :
    ∃ element, .error (.duplicate a.1.2.qualifiedName element) ∈ results := by
  rw [answers_eq h] at ha
  have hmem := mem_of_mem_firstsBy ha
  obtain ⟨before, after, hsplit, hfirst⟩ := mem_firstsBy_iff.1 ha
  -- there is another declaration of the package, and it comes later
  obtain ⟨b, hb, hpackage⟩ := (repeats_iff h hsplit).1 hrepeats
  have hlater : b ∈ after :=
    (List.mem_append.1 hb).resolve_left fun hb => hfirst b hb hpackage
  obtain ⟨between, behind, rfl⟩ := List.append_of_mem hlater
  rw [← List.cons_append, ← List.append_assoc] at hsplit
  have hb : b ∈ (config.matching round).zip results := by
    rw [hsplit]
    exact List.mem_append_right _ List.mem_cons_self
  rcases h.of_split hsplit with ⟨-, hresult⟩ | ⟨hnone, -⟩
  · refine ⟨some b.1.1.displayName, ?_⟩
    rw [request_eq_of_package_eq hmem hb hpackage.symm, ← hresult]
    exact (List.of_mem_zip hb).2
  · exact absurd hpackage.symm (hnone a (List.mem_append_right _ List.mem_cons_self))

/-- **Requests are refused exactly if they are made again**: there is a refusal for each answer for
a package that is asked for more than once, and for no other name. -/
theorem exists_duplicate_iff
    (hduplicate : ∀ r name element, render r ≠ .error (.duplicate name element))
    (h : Answered render publish [] (config.matching round) state results final) {name : String} :
    (∃ element, .error (.duplicate name element) ∈ results) ↔
      ∃ a ∈ config.answers render publish round state,
        a.1.2.qualifiedName = name ∧ config.Repeats round a.1.1.package := by
  constructor
  · rintro ⟨element, hmem⟩
    exact exists_answer_of_duplicate hduplicate h hmem
  · rintro ⟨a, ha, rfl, hrepeats⟩
    exact duplicate_mem_of_repeats h ha hrepeats

end

/-! ### The help that is given -/

theorem mem_written_ofResults {results : List (Except GenerateError String)} {name : String} :
    name ∈ (RoundOutcome.ofResults results).written ↔ .ok name ∈ results := by
  rw [written_ofResults, List.mem_filterMap]
  constructor
  · rintro ⟨result, hresult, hname⟩
    rwa [← eq_ok_of_toOption hname]
  · exact fun h => ⟨_, h, rfl⟩

theorem mem_failures_ofResults {results : List (Except GenerateError String)} {e : GenerateError} :
    e ∈ (RoundOutcome.ofResults results).failures ↔ .error e ∈ results := by
  rw [failures_ofResults, List.mem_filterMap]
  simp only [error?_eq_some_iff, exists_eq_right]

/-- **What is reported as a duplicate was written exactly if it was generated when it was asked for
first.** A round reports the names that it asks for more than once, writes those whose first
request is answered with success, and so reports nothing but what it has written exactly if every
request that is made again was answered with success before. -/
theorem Strategy.duplicates_written_iff {σ : Type} (s : Strategy) (t : ClassTemplate)
    (config : PassConfig) (publish : Artifact → StateM σ (Except WriteError Unit)) (round : Round)
    (state : σ) :
    let outcome := (runRound config (s.render t) publish round state).1
    let answers := config.answers (s.render t) publish round state
    (∀ name, (∃ element, .duplicate name element ∈ outcome.failures) ↔
        ∃ a ∈ answers, a.1.2.qualifiedName = name ∧ config.Repeats round a.1.1.package) ∧
      (∀ a ∈ answers, a.1.2.qualifiedName ∈ outcome.written ↔ a.2.isOk) ∧
      ((∀ name element, .duplicate name element ∈ outcome.failures → name ∈ outcome.written) ↔
        ∀ a ∈ answers, config.Repeats round a.1.1.package → a.2.isOk) := by
  intro outcome answers
  obtain ⟨results, final, hrun, h⟩ :=
    answered_runRound config (s.render t) publish round state
  have hwritten : ∀ name, name ∈ outcome.written ↔ .ok name ∈ results := by
    intro name
    show name ∈ (runRound config (s.render t) publish round state).1.written ↔ _
    rw [hrun]
    exact mem_written_ofResults
  have hfailures : ∀ e, e ∈ outcome.failures ↔ .error e ∈ results := by
    intro e
    show e ∈ (runRound config (s.render t) publish round state).1.failures ↔ _
    rw [hrun]
    exact mem_failures_ofResults
  have hreported : ∀ name, (∃ element, .duplicate name element ∈ outcome.failures) ↔
      ∃ a ∈ answers, a.1.2.qualifiedName = name ∧ config.Repeats round a.1.1.package := by
    intro name
    simp only [hfailures]
    exact exists_duplicate_iff (s.render_ne_duplicate t) h
  have hanswered : ∀ a ∈ answers, a.1.2.qualifiedName ∈ outcome.written ↔ a.2.isOk := by
    intro a ha
    rw [hwritten]
    exact ok_mem_results_iff (fun _ _ => name_of_render) h ha
  -- a name is told as a duplicate exactly if the package of its first answer is repeated
  refine ⟨hreported, hanswered, fun htrue a ha hrepeats => ?_, fun hok name element hmem => ?_⟩
  · obtain ⟨element, hmem⟩ := (hreported a.1.2.qualifiedName).2 ⟨a, ha, rfl, hrepeats⟩
    exact (hanswered a ha).1 (htrue _ element hmem)
  · obtain ⟨a, ha, rfl, hrepeats⟩ := (hreported name).1 ⟨element, hmem⟩
    exact (hanswered a ha).2 (hok a ha hrepeats)

/-- Two declarations in one package, where nothing can be written: the help says that the artifact
was produced, and it was not. -/
theorem not_duplicates_written_readOnly :
    let twins : Round := ⟨[⟨"m", "a", none⟩, ⟨"m", "a", none⟩]⟩
    let outcome := (runRound ⟨"m", "C"⟩ (Strategy.structured.render .default)
      MemoryArea.output.publish twins { readOnly := true }).1
    outcome.written = [] ∧
      outcome.failures =
        [.write ⟨"a.C", MemoryArea.readOnlyFault⟩, .duplicate "a.C" (some "a")] ∧
      outcome.failures.map (·.help?) =
        [none, some "another declaration in this round already produced 'a.C'"] ∧
      ¬ ∀ name element, .duplicate name element ∈ outcome.failures → name ∈ outcome.written := by
  intro twins outcome
  have hwritten : outcome.written = [] := by decide +kernel
  have hfailures : outcome.failures =
      [.write ⟨"a.C", MemoryArea.readOnlyFault⟩, .duplicate "a.C" (some "a")] := by decide +kernel
  refine ⟨hwritten, hfailures, by rw [hfailures]; rfl, fun h => ?_⟩
  have hmem := h "a.C" (some "a") (by rw [hfailures]; simp)
  rw [hwritten] at hmem
  exact List.not_mem_nil hmem

end Stencil
