import Stencil.Command.Execution
import Stencil.Proofs.Pass.Preview

/-!
# Runs and dry runs

Once its documents are read (`RunOptions.Opens`), a run is a pass over the rounds of the feed that
publishes below a directory, and a dry run is the same pass with an area in memory. How either ends
is told by a report (`RunReport.ending`), and the exit code by the failures in it alone.

So a run into a fresh directory succeeds where the dry run does, if the structured strategy renders
the classes (`exitCode_run`): `inStep_access` puts the two in step, as the area below the directory
is in step with memory. And the dry run succeeds if whatever is asked for can be rendered
(`exitCode_dryRun`), since memory refuses nothing.
-/

namespace Stencil

/-! ### Reports -/

namespace RunReport

variable {report report' : RunReport}

/-- How a run with a report ends. -/
def ending (report : RunReport) : Ending :=
  .shown report.lines
    (if report.failureCount > 0 then some [RoundOutcome.failureMessage report.failureCount]
      else none)

theorem failureCount_eq_zero_iff :
    report.failureCount = 0 ↔ ∀ o ∈ report.rounds, o.failures = [] := by
  unfold failureCount
  rw [total_eq_zero_iff]
  exact forall₂_congr fun o _ => List.length_eq_zero_iff

/-- **A run succeeds if nothing failed** in any of its rounds. -/
theorem exitCode_ending_iff :
    report.ending.exitCode = 0 ↔ ∀ o ∈ report.rounds, o.failures = [] := by
  rw [← failureCount_eq_zero_iff]
  unfold ending
  split
  · next hfailed =>
    have hone : (1 : UInt8) ≠ 0 := by decide
    exact iff_of_false hone (by omega)
  · next hclean => exact iff_of_true rfl (by omega)

theorem exitCode_congr (h : report.rounds = report'.rounds) :
    report.ending.exitCode = report'.ending.exitCode := by
  have hcount : report.failureCount = report'.failureCount := by
    unfold failureCount
    rw [h]
  unfold ending
  rw [hcount]
  split <;> rfl

end RunReport

/-! ### Documents -/

section

variable {ρ : Type} {parse : String → String → Except ConfigError ρ} {path : String} {tree : Tree}

/-- Opening a document changes no file. -/
theorem openDocument_snd : (openDocument Tree.access parse path tree).2 = tree := by
  obtain ⟨result, hread⟩ : ∃ result, Tree.access.read path tree = (result, tree) := ⟨_, rfl⟩
  unfold openDocument openText
  simp only [bind, StateT.bind, hread]
  cases result with
  | error fault => rfl
  | ok bytes =>
    dsimp only
    cases Text.decode bytes <;> rfl

/-- A file that holds a text is opened as what the text is read as. -/
theorem openDocument_of_readFile {text : String} {document : ρ}
    (hread : tree.readFile path = .ok (Text.bytesOf text))
    (hparse : parse path text = .ok document) :
    (openDocument Tree.access parse path tree).1 = .ok (text, document) := by
  have haccess : Tree.access.read path tree = (.ok (Text.bytesOf text), tree) := by
    show ((tree.readFile path).mapError _, tree) = _
    rw [hread]
    rfl
  unfold openDocument openText
  simp only [bind, StateT.bind, haccess, Text.bytesOf, Text.decode_encode]
  -- the characters that were read back are those of the text
  show Except.map _ (parse path (String.ofList text.toList)) = _
  rw [String.ofList_toList, hparse]
  rfl

end

/-! ### The two commands -/

section

variable {σ : Type} {files : FileAccess (StateM σ)} {o : RunOptions} {state mid ready : σ}
  {text text' : String} {m : Manifest} {feed : Feed}

/-- Once the documents are open, a run passes over the rounds, with an area in memory if it is a dry
run and below its output directory if it is not. -/
theorem runCommand_of_openDocument
    (hconfig : openDocument files Manifest.parse o.config state = (.ok (text, m), mid))
    (hrounds : openDocument files Feed.parse o.rounds mid = (.ok (text', feed), ready)) :
    runCommand files o state =
      let strategy := o.strategy.getD m.generator.strategy
      let render := strategy.render m.template
      if o.dryRun then
        let run := runRounds (.ofManifest m) render MemoryArea.output.publish feed.rounds {}
        (RunReport.ending ⟨strategy, run.1, .preview run.2.files⟩, ready)
      else
        let run := runRounds (.ofManifest m) render (files.publish o.output) feed.rounds ready
        (RunReport.ending ⟨strategy, run.1, .directory o.output⟩, run.2) := by
  unfold runCommand
  -- once both files are read, only the option decides where the artifacts go
  simp only [bind, StateT.bind, hconfig, hrounds]
  split <;> rfl

end

/-- **The documents that options name** are in a tree, and read as a manifest and a feed. -/
structure RunOptions.Opens (o : RunOptions) (tree : Tree) (m : Manifest) (feed : Feed) : Prop where
  config : ∃ text, (openDocument Tree.access Manifest.parse o.config tree).1 = .ok (text, m)
  rounds : ∃ text, (openDocument Tree.access Feed.parse o.rounds tree).1 = .ok (text, feed)

namespace RunOptions.Opens

variable {o : RunOptions} {tree : Tree} {m : Manifest} {feed : Feed}

/-- The documents are opened one after the other, and the tree stays as it is. -/
theorem openDocument_eq (h : o.Opens tree m feed) :
    ∃ text text', openDocument Tree.access Manifest.parse o.config tree = (.ok (text, m), tree) ∧
      openDocument Tree.access Feed.parse o.rounds tree = (.ok (text', feed), tree) := by
  obtain ⟨⟨text, hconfig⟩, text', hrounds⟩ := h
  exact ⟨text, text', Prod.ext hconfig openDocument_snd, Prod.ext hrounds openDocument_snd⟩

/-- A dry run passes over the rounds with an area in memory. -/
theorem dryRun (h : o.Opens tree m feed) :
    runCommand Tree.access { o with dryRun := true } tree =
      let strategy := o.strategy.getD m.generator.strategy
      let run := runRounds (.ofManifest m) (strategy.render m.template) MemoryArea.output.publish
        feed.rounds {}
      (RunReport.ending ⟨strategy, run.1, .preview run.2.files⟩, tree) := by
  obtain ⟨text, text', hconfig, hrounds⟩ := h.openDocument_eq
  exact runCommand_of_openDocument (o := { o with dryRun := true }) hconfig hrounds

/-- Any other run passes over them and publishes below its output directory. -/
theorem run (h : o.Opens tree m feed) :
    runCommand Tree.access { o with dryRun := false } tree =
      let strategy := o.strategy.getD m.generator.strategy
      let run := runRounds (.ofManifest m) (strategy.render m.template)
        (Tree.access.publish o.output) feed.rounds tree
      (RunReport.ending ⟨strategy, run.1, .directory o.output⟩, run.2) := by
  obtain ⟨text, text', hconfig, hrounds⟩ := h.openDocument_eq
  exact runCommand_of_openDocument (o := { o with dryRun := false }) hconfig hrounds

end RunOptions.Opens

/-! ### Runs in step -/

section

variable (render : Request → Except GenerateError Artifact)

/-- Publishing into a tree is publishing into the area below a directory of the tree. -/
theorem generate_access (path : String) (r : Request) (tree : Tree) :
    generate render (Tree.access.publish path) r tree =
      let run := generate render DirectoryArea.output.publish r { root := path, tree }
      (run.1, run.2.tree) := by
  cases hr : render r with
  | error e => rw [generate_of_error hr, generate_of_error hr]
  | ok a =>
    rw [generate_of_ok hr, generate_of_ok hr]
    rfl

/-- **A tree into which a run publishes goes in step with a memory**, as the area below the
directory does. -/
theorem inStep_access {tree : Tree} {path : String} {place : Location}
    (hfresh : DirectoryArea.IsFresh { root := path, tree } place)
    (hrender : ∀ r e, render r = .error e → e.write? = none) :
    InStep render MemoryArea.output.publish (Tree.access.publish path)
      (fun memory after => memory.readOnly = false ∧
        DirectoryArea.Mirrors { root := path, tree } place memory after) (Realized render) where
  duplicate name declaration := .failed rfl
  generate := by
    rintro r memory after ⟨hwritable, hmirrors⟩
    -- the step is that of a directory, here the one to which the run writes in its tree
    obtain ⟨hresult, hnext, after', harea, hmirrors'⟩ :=
      (inStep_mirrors hfresh hrender).generate r memory _ ⟨hwritable, after, rfl, hmirrors⟩
    rw [generate_access]
    dsimp only
    rw [harea]
    exact ⟨hresult, hnext, hmirrors'⟩

/-- Takes whatever is published, and keeps nothing of it. -/
def acceptAll (_ : Artifact) : StateM Unit (Except WriteError Unit) :=
  pure (.ok ())

theorem MemoryArea.inStep_acceptAll :
    InStep render output.publish acceptAll (fun area _ => area.readOnly = false) (· = ·) where
  duplicate _ _ := rfl
  generate := by
    rintro r area ⟨⟩ hwritable
    -- memory accepts all there is, so only the rendering decides
    cases hr : render r with
    | error e =>
      rw [generate_of_error hr, generate_of_error hr]
      exact ⟨rfl, hwritable⟩
    | ok a =>
      rw [generate_of_ok hr, generate_of_ok hr, publish_eq a hwritable]
      exact ⟨rfl, hwritable⟩

/-- Memory refuses nothing, so what becomes of rounds there is told by what is rendered for
them. -/
theorem MemoryArea.runRounds_eq_acceptAll (config : PassConfig) (rounds : List Round) :
    (runRounds config render output.publish rounds {}).1 =
      (runRounds config render acceptAll rounds ()).1 :=
  (inStep_acceptAll render).runRounds_eq config rounds rfl

end

namespace RunOptions.Opens

variable {o : RunOptions} {tree : Tree} {m : Manifest} {feed : Feed}

/-- **A run into a fresh directory succeeds where the dry run does**, with the structured strategy:
there the outcomes of all rounds are the same. -/
theorem exitCode_run {place : Location} (h : o.Opens tree m feed)
    (hstrategy : o.strategy.getD m.generator.strategy = .structured)
    (hfresh : DirectoryArea.IsFresh { root := o.output, tree } place) :
    (runCommand Tree.access { o with dryRun := false } tree).1.exitCode =
      (runCommand Tree.access { o with dryRun := true } tree).1.exitCode := by
  -- both reports come from runs in step, of which one is in memory and the other in the tree
  rw [h.run, h.dryRun]
  apply RunReport.exitCode_congr
  dsimp only
  rw [hstrategy]
  have hstep := inStep_access (Strategy.structured.render m.template) hfresh
    fun _ _ => write?_of_render
  obtain ⟨hrounds, -⟩ := hstep.runRounds (.ofManifest m) feed.rounds ⟨rfl, hfresh.mirrors⟩
  -- identifiers are safe segments, so nothing is refused
  have hsame := hrounds.imp fun _ _ hround =>
    (hround.eq_of_safe fun _ _ => isSafeName_of_render).symm
  rw [List.forall₂_eq_eq_eq] at hsame
  exact hsame.symm

/-- A dry run succeeds if all that is asked for is rendered, and nothing twice in a round. -/
theorem exitCode_dryRun (h : o.Opens tree m feed)
    (hclean : ∀ outcome ∈ (runRounds (.ofManifest m)
      ((o.strategy.getD m.generator.strategy).render m.template) acceptAll feed.rounds ()).1,
      outcome.failures = []) :
    (runCommand Tree.access { o with dryRun := true } tree).1.exitCode = 0 := by
  rw [h.dryRun]
  apply RunReport.exitCode_ending_iff.2
  show ∀ outcome ∈ (runRounds _ _ MemoryArea.output.publish feed.rounds {}).1, _
  -- a preview writes to memory, which accepts everything
  rw [MemoryArea.runRounds_eq_acceptAll]
  exact hclean

end RunOptions.Opens

end Stencil
