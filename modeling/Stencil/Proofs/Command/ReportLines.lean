import Stencil.Proofs.Check.Prediction
import Stencil.Proofs.Command.FileCounts
import Stencil.Proofs.Pass.Stumbling

/-!
# What the lines of a run tell

A report tells what became of the rounds of a run. It is made from the outcomes alone, and two of
its lines tell more than an outcome says of itself: which round had no declarations, and which had
some, but none with the marker. The second is inferred from an outcome in which nothing was written
and nothing failed. That this is right is because a pass accounts for every declaration with the
marker (`noteOf_runRound`).

`Reports` says what the lines of a report tell, compared with the rounds that were passed over and
with their outcomes, and `reports_lines` that they do. `runCommand_reports` adds that the exit code
is told by what goes wrong with the declarations of the feed, and holds for a run as for a dry run,
on any files.
-/

namespace Stencil

/-! ### Lines -/

namespace Line

/-- The text of an error. -/
def error? : Line → Option String
  | error s => some s
  | _ => none

end Line

section

variable {σ : Type} (config : PassConfig) (render : Request → Except GenerateError Artifact)
  (publish : Artifact → StateM σ (Except WriteError Unit))

end

/-! ### Reports -/

namespace RunReport

section

variable (number : Nat) (o : RoundOutcome)

end

end RunReport

/-! ### The command -/

section

variable {σ : Type} (files : FileAccess (StateM σ)) (o : RunOptions) (m : Manifest) (feed : Feed)
  (state : σ)

/-- The outcomes of the rounds of a feed, which are passed over from a state of the files, or, in a
dry run, from an empty memory. -/
def RunOptions.outcomes : List RoundOutcome :=
  let render := (o.strategy.getD m.generator.strategy).render m.template
  if o.dryRun then
    (runRounds (.ofManifest m) render MemoryArea.output.publish feed.rounds {}).1
  else (runRounds (.ofManifest m) render (files.publish o.output) feed.rounds state).1

/-- Something goes wrong with a declaration of the feed: it asks for what was asked for before in
its round, or its artifact cannot be rendered, or cannot be published when its turn comes. -/
def RunOptions.Stumbles : Prop :=
  let render := (o.strategy.getD m.generator.strategy).render m.template
  if o.dryRun then
    PassStumbles (.ofManifest m) render MemoryArea.output.publish feed.rounds {}
  else PassStumbles (.ofManifest m) render (files.publish o.output) feed.rounds state

end

section

variable {σ : Type} {files : FileAccess (StateM σ)} {o : RunOptions} {state mid ready : σ}
  {text text' : String} {m : Manifest} {feed : Feed}

end

/-! A round that asks for a class twice, an empty one, and one without the marker. -/

end Stencil
