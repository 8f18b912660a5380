import Stencil.Keyed
import Stencil.Pass

/-!
# Reports

What a command shows when it is done: lines, of which those that tell of problems go to another
place than the rest. A run shows its rounds one by one and a summary; a check shows what the
manifest says.
-/

namespace Stencil

/-- One line of a command's output. -/
inductive Line where
  | heading (title : String)
  | field (key value : String)
  | note (text : String)
  | added (name : String)
  | failed (name cause : String)
  | warning (text : String)
  | error (text : String)
  | rule (label : String)
  | text (text : String)
  | blank
deriving Repr, DecidableEq

namespace Line

/-- Whether a line tells of a problem. -/
def isDiagnostic : Line → Bool
  | failed _ _ | warning _ | error _ => true
  | _ => false

/-- The line as it is printed, without its end. -/
def render : Line → String
  | heading title => title ++ ":"
  | field key value => key ++ ": " ++ value
  | note s => "  - " ++ s
  | added name => "  + " ++ name
  | failed name cause => "  ✗ " ++ name ++ ": " ++ cause
  | warning s => "warning: " ++ s
  | error s => "error: " ++ s
  | rule label => "── " ++ label ++ " ──"
  | text s => s
  | blank => ""

end Line

/-- Lines as they are printed. -/
def renderLines (lines : List Line) : String :=
  String.join (lines.map fun line => line.render ++ "\n")

/-- The lines that tell of no problem. -/
def ordinaryLines (lines : List Line) : List Line :=
  lines.filter (!·.isDiagnostic)

/-- The lines that tell of problems. -/
def diagnosticLines (lines : List Line) : List Line :=
  lines.filter (·.isDiagnostic)

/-! ### Runs -/

/-- Where the artifacts of a run went: into a directory, or nowhere but into the report. -/
inductive Destination where
  | directory (path : String)
  | preview (files : Keyed String)
deriving Repr, DecidableEq

/-- What a run did. -/
structure RunReport where
  strategy : Strategy
  rounds : List RoundOutcome
  destination : Destination
deriving Repr, DecidableEq

namespace RunReport

/-- The number of artifacts that were published. -/
def writtenCount (r : RunReport) : Nat :=
  total (·.written.length) r.rounds

/-- The number of artifacts that were not. -/
def failureCount (r : RunReport) : Nat :=
  total (·.failures.length) r.rounds

/-- What a round without results is noted for. -/
def noteOf (o : RoundOutcome) : List Line :=
  if !o.claimed then [.note "no declarations"]
  else if o.written.isEmpty && o.failures.isEmpty then
    [.note "no declaration carries the marker"]
  else []

/-- The lines of a round. -/
def roundLines (number : Nat) (o : RoundOutcome) : List Line :=
  .heading s!"Round {number}" ::
    (noteOf o ++ o.written.map .added ++ o.failures.map fun e => .failed e.artifact e.causeChain)

/-- The lines of the generated texts that went nowhere else. -/
def previewLines (r : RunReport) : List Line :=
  match r.destination with
  | .preview files => files.flatMap fun (name, content) => [.rule name, .text content]
  | .directory _ => []

/-- How many artifacts there are, and where. -/
def totalLine (r : RunReport) : Line :=
  match r.destination with
  | .directory path => .field "Generated" s!"{r.writtenCount} file(s) in {path}"
  | .preview files => .text s!"{files.length} file(s) would be generated"

/-- The lines of a report. -/
def lines (r : RunReport) : List Line :=
  r.previewLines ++
    (r.rounds.zipIdx 1).flatMap (fun (o, number) => roundLines number o) ++
    [.rule "Summary", .field "Strategy" r.strategy.name, r.totalLine] ++
    (if r.failureCount > 0 then [.warning s!"{r.failureCount} artifact(s) failed"] else [])

end RunReport

/-! ### Checks -/

/-- What a check found in a feed. -/
structure FeedSummary where
  path : String
  rounds : Nat
  declarations : Nat
  /-- The declarations that carry the marker. -/
  matching : Nat
deriving Repr, DecidableEq

/-- What a feed holds for those who look for a marker. -/
def FeedSummary.ofFeed (path marker : String) (feed : Feed) : FeedSummary where
  path := path
  rounds := feed.rounds.length
  declarations := feed.declarationCount
  matching := total (fun round => (PassConfig.requests { marker } round).length) feed.rounds

/-- What a check found. -/
structure CheckReport where
  path : String
  manifest : Manifest
  error : Option Java.InvalidName
  feed : Option FeedSummary := none
deriving Repr, DecidableEq

namespace CheckReport

/-- What is found in a manifest: the first name or type that no class can have, wherever the class
is. -/
def ofManifest (path : String) (m : Manifest) : CheckReport where
  path := path
  manifest := m
  error :=
    match Java.buildClass m.template ⟨"", m.template.className⟩ with
    | .ok _ => none
    | .error e => some e

/-- Whether nothing was found to be wrong. -/
def isValid (r : CheckReport) : Bool :=
  r.error.isNone

/-- The line of a feed. -/
def feedLine (f : FeedSummary) : Line :=
  .field "Rounds"
    s!"{f.rounds} round(s), {f.declarations} declaration(s), {f.matching} matching in {f.path}"

/-- The lines of a report. -/
def lines (r : CheckReport) : List Line :=
  match r.error with
  | some e => [.error e.message]
  | none =>
    let t := r.manifest.template
    [.text s!"✓ {r.path} is valid", .blank, .field "Marker" r.manifest.generator.marker,
      .field "Strategy" r.manifest.generator.strategy.name,
      .field "Class"
        s!"{t.className} ({t.fields.length} field(s), {t.methods.length} method(s))"] ++
      (r.feed.map feedLine).toList

end CheckReport

end Stencil
