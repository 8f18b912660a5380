import Stencil.Command.Arguments
import Stencil.Command.Starter
import Stencil.Manifest.Document
import Stencil.Output.Directory
import Stencil.Output.Memory
import Stencil.Report

/-!
# Execution of commands

What the commands do, given access to files. `run` passes over the rounds of a feed, `check` looks
at a manifest without generating anything, and `init` writes the starter files, but not over others
unless it is told to.

A command either shows lines, and then succeeds or fails with a chain of causes, or it stops at a
document that it cannot use. Files may be those of a machine or of a `Tree`.
-/

namespace Stencil

/-- Access to files. -/
structure FileAccess (m : Type → Type) where
  read : String → m (Except Fault (List UInt8))
  isThere : String → m Bool
  makeDirectories : String → m (Except Fault Unit)
  /-- Puts a text into the file at a path. -/
  write : (path content : String) → m (Except Fault Unit)
  /-- Publishes an artifact below a root directory. -/
  publish : (root : String) → Artifact → m (Except WriteError Unit)

/-- The files of a tree. -/
def Tree.access : FileAccess (StateM Tree) where
  read path := fun t => ((t.readFile path).mapError fun kind => { kind }, t)
  isThere path := fun t => (t.isThere path, t)
  makeDirectories path := fun t =>
    let (result, t) := t.makeDirectories path
    ((result.map fun _ => ()).mapError fun kind => { kind }, t)
  write path content := fun t =>
    let (result, t) := t.writeFile path (Text.bytesOf content)
    (result.mapError fun kind => { kind }, t)
  publish root artifact := fun tree =>
    let (result, area) := DirectoryArea.output.publish artifact { root, tree }
    (result, area.tree)

/-- How a command ends. -/
inductive Ending where
  /-- It has shown lines. If it failed, it tells why: an error, what caused that, and so on. -/
  | shown (lines : List Line) (failure : Option (List String))
  /-- It cannot use a document. -/
  | stopped (e : ConfigError)
  /-- It shows the completions for a shell. -/
  | script (shell : Shell)
  /-- The command line makes no sense. -/
  | refused
deriving Repr, DecidableEq

/-- The exit code of a command. -/
def Ending.exitCode : Ending → UInt8
  | shown _ none | script _ => 0
  | shown _ (some _) | stopped _ => 1
  | refused => 2

/-- What is shown to those who ask for the version. -/
def versionText : String :=
  "etch 0.1.0"

section

variable {m : Type → Type} [Monad m] (files : FileAccess m)

/-- The text of the file at a path. -/
def openText (path : String) : m (Except ConfigError String) := do
  match ← files.read path with
  | .error fault => return .error (.unreadable path fault)
  | .ok bytes =>
    match Text.decode bytes with
    | .ok content => return .ok (String.ofList content)
    | .error _ => return .error (.unreadable path { kind := .invalidData })

/-- The text of the file at a path and what it is read as. -/
def openDocument {ρ : Type} (parse : (file text : String) → Except ConfigError ρ) (path : String) :
    m (Except ConfigError (String × ρ)) := do
  match ← openText files path with
  | .error e => return .error e
  | .ok text => return (parse path text).map (text, ·)

/-- Generates what a feed asks for. -/
def runCommand (o : RunOptions) : m Ending := do
  match ← openDocument files Manifest.parse o.config with
  | .error e => return .stopped e
  | .ok (_, manifest) =>
    match ← openDocument files Feed.parse o.rounds with
    | .error e => return .stopped e
    | .ok (_, feed) =>
      let strategy := o.strategy.getD manifest.generator.strategy
      let config := PassConfig.ofManifest manifest
      let render := strategy.render manifest.template
      let report ←
        if o.dryRun then
          let (rounds, area) := (runRounds config render MemoryArea.output.publish feed.rounds).run {}
          pure (RunReport.mk strategy rounds (.preview area.files))
        else do
          let rounds ← runRounds config render (files.publish o.output) feed.rounds
          pure (RunReport.mk strategy rounds (.directory o.output))
      let failure :=
        if report.failureCount > 0 then some [RoundOutcome.failureMessage report.failureCount]
        else none
      return .shown report.lines failure

/-- Checks a manifest, and reads a feed beside it if one is named. -/
def checkCommand (o : CheckOptions) : m Ending := do
  match ← openDocument files Manifest.parse o.config with
  | .error e => return .stopped e
  | .ok (_, manifest) =>
    let report := CheckReport.ofManifest o.config manifest
    let shown (report : CheckReport) : Ending :=
      .shown report.lines (if report.isValid then none else some [o.config ++ " is not valid"])
    match o.rounds with
    | none => return shown report
    | some path =>
      match ← openDocument files Feed.parse path with
      | .error e => return .stopped e
      | .ok (_, feed) =>
        let summary := FeedSummary.ofFeed path manifest.generator.marker feed
        return shown { report with feed := some summary }

/-- The first of some paths at which there is something. -/
def firstThere? : List String → m (Option String)
  | [] => return none
  | path :: rest => do
    if ← files.isThere path then return some path else firstThere? rest

/-- Writes files into a directory up to the first fault. Tells the names of those that were
written, and the path and the fault of the one that was not. -/
def writeFiles (directory : String) :
    List (String × String) → m (List String × Option (String × Fault))
  | [] => return ([], none)
  | (name, content) :: rest => do
    let path := joinPath directory name
    match ← files.write path content with
    | .error fault => return ([], some (path, fault))
    | .ok () =>
      let (names, failure) ← writeFiles directory rest
      return (name :: names, failure)

/-- Writes the starter files. -/
def initCommand (o : InitOptions) : m Ending := do
  let paths := Starter.files.map fun file => joinPath o.output file.1
  let obstacle ← if o.force then pure none else firstThere? files paths
  match obstacle with
  | some path => return .shown [] (some [path ++ " already exists (use --force to overwrite)"])
  | none =>
    match ← files.makeDirectories o.output with
    | .error fault => return .shown [] (some ["Failed to create " ++ o.output, fault.text])
    | .ok () =>
      let (names, failure) ← writeFiles files o.output Starter.files
      let added := names.map Line.added
      match failure with
      | some (path, fault) => return .shown added (some ["Failed to write " ++ path, fault.text])
      | none =>
        let next := "Next: etch run -c " ++ joinPath o.output "etch.toml"
        return .shown (added ++ [.blank, .text next]) none

/-- Does what a command line asks for. -/
def execute (args : List String) : m Ending :=
  match Command.parse args with
  | .error .usage => return .refused
  | .error .help => return .shown [] none
  | .error .version => return .shown [.text versionText] none
  | .ok (.run options) => runCommand files options
  | .ok (.check options) => checkCommand files options
  | .ok (.init options) => initCommand files options
  | .ok (.completions shell) => return .script shell

end

end Stencil
