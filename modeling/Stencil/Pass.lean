import Stencil.Emission
import Stencil.Manifest

/-!
# Passes over rounds

A pass looks through a round for declarations with a marker, asks for one class in the package of
each, and publishes what the requests are answered with. A request for an artifact that the round
has asked for before is refused; every other one is tried, whatever became of those before it.

How artifacts are rendered and where they are published is left open: `publish` may be any action
that tells whether it succeeded.
-/

namespace Stencil

/-- What a pass looks for, and the name of the classes that it asks for. -/
structure PassConfig where
  marker : String
  className : String := ClassTemplate.defaultClassName
deriving Repr, DecidableEq

namespace PassConfig

/-- The pass that a manifest describes. -/
def ofManifest (m : Manifest) : PassConfig :=
  ⟨m.generator.marker, m.template.className⟩

/-- The declarations of a round that carry the marker, each with the request that it gives rise
to. -/
def matching (config : PassConfig) (round : Round) : List (Declaration × Request) :=
  (round.declarations.filter (·.marker == config.marker)).map fun d =>
    (d, ⟨d.package, config.className⟩)

/-- The requests that a round gives rise to. -/
def requests (config : PassConfig) (round : Round) : List Request :=
  (config.matching round).map (·.2)

end PassConfig

/-- What became of a round. -/
structure RoundOutcome where
  /-- Whether the round had any declarations. -/
  claimed : Bool
  /-- The artifacts that were published, in order. -/
  written : List String := []
  /-- What went wrong, in order. -/
  failures : List GenerateError := []
deriving Repr, DecidableEq

namespace RoundOutcome

/-- Whether nothing went wrong. -/
def isOk (o : RoundOutcome) : Bool :=
  o.failures.isEmpty

/-- Whether there were declarations, but nothing came of them. -/
def isUnmatched (o : RoundOutcome) : Bool :=
  o.claimed && o.written.isEmpty

/-- What is said of failures. -/
def failureMessage (count : Nat) : String :=
  s!"{count} artifact(s) failed to generate"

/-- The identifier of a round with failures. -/
def failureCode : String :=
  "etch::round_failed"

/-- What becomes of a round with declarations, given the results of all requests in order. -/
def ofResults (results : List (Except GenerateError String)) : RoundOutcome where
  claimed := true
  written := results.filterMap fun
    | .ok name => some name
    | .error _ => none
  failures := results.filterMap fun
    | .ok _ => none
    | .error e => some e

end RoundOutcome

section

variable {m : Type → Type} [Monad m]

/-- Renders the answer to a request and publishes it. -/
def generate (render : Request → Except GenerateError Artifact)
    (publish : Artifact → m (Except WriteError Unit)) (request : Request) :
    m (Except GenerateError String) :=
  match render request with
  | .error e => return .error e
  | .ok artifact => do
    match ← publish artifact with
    | .ok () => return .ok artifact.name
    | .error e => return .error (.write e)

/-- Answers requests in order. The artifacts in `seen` have been asked for before. -/
def generateAll (render : Request → Except GenerateError Artifact)
    (publish : Artifact → m (Except WriteError Unit)) :
    List String → List (Declaration × Request) → m (List (Except GenerateError String))
  | _, [] => return []
  | seen, (declaration, request) :: rest => do
    let name := request.qualifiedName
    let result ←
      if name ∈ seen then pure (.error (.duplicate name (some declaration.displayName)))
      else generate render publish request
    return result :: (← generateAll render publish (name :: seen) rest)

/-- Passes over one round. -/
def runRound (config : PassConfig) (render : Request → Except GenerateError Artifact)
    (publish : Artifact → m (Except WriteError Unit)) (round : Round) : m RoundOutcome :=
  if round.declarations.isEmpty then return { claimed := false }
  else return .ofResults (← generateAll render publish [] (config.matching round))

/-- Passes over rounds in order. -/
def runRounds (config : PassConfig) (render : Request → Except GenerateError Artifact)
    (publish : Artifact → m (Except WriteError Unit)) : List Round → m (List RoundOutcome)
  | [] => return []
  | round :: rest => do
    let outcome ← runRound config render publish round
    return outcome :: (← runRounds config render publish rest)

end

end Stencil
