import Stencil.Fault
import Stencil.Request
import Stencil.Text.Utf8

/-!
# Output areas

An output area hands out one stream per artifact. What is written to a stream is seen by nobody
until the stream is committed; a stream that is discarded leaves nothing behind under its name.

An area is given by what its operations do: a state `σ` while no stream is open, and a state `τ`
with an open one. `OutputArea.run` goes through the life of a stream, and `OutputArea.publish` is
the life in which an artifact is written, flushed and committed.
-/

namespace Stencil

/-- What a stream does when it is given bytes: it accepts some of them from the front, it asks to
be given them again, or it fails. -/
inductive WriteReply (τ : Type) where
  | accepted (count : Nat) (stream : τ)
  | interrupted (stream : τ)
  | failed (fault : Fault) (stream : τ)

/-- Where generated artifacts go. -/
structure OutputArea (σ τ : Type) where
  /-- Opens a stream under a name. -/
  openStream : String → σ → Except (Fault × σ) τ
  /-- Gives bytes to a stream. -/
  write : List UInt8 → τ → WriteReply τ
  /-- Makes a stream pass on what it has accepted. -/
  flush : τ → Option Fault × τ
  /-- Publishes what a stream has accepted, and closes it. -/
  commit : τ → Option Fault × σ
  /-- Closes a stream without publishing anything. -/
  discard : τ → σ
  /-- How often a stream may still ask for the same bytes. -/
  patience : τ → Nat
  /-- A stream does not ask for the same bytes forever. -/
  patience_lt : ∀ bytes stream stream',
    write bytes stream = .interrupted stream' → patience stream' < patience stream

/-- Where in the life of a stream something failed. -/
inductive Stage where
  | opening
  | writing
  | flushing
  | committing
deriving Repr, DecidableEq

/-- What is done with a stream: the chunks that are written, whether they are flushed, and whether
the stream is committed at the end. -/
structure Session where
  chunks : List (List UInt8)
  flush : Bool
  commit : Bool
deriving Repr, DecidableEq

/-- That an artifact was not published, and why. -/
structure WriteError where
  name : String
  fault : Fault
deriving Repr, DecidableEq

/-- The error in words. -/
def WriteError.message (e : WriteError) : String :=
  s!"failed to write source file '{e.name}'"

namespace OutputArea

variable {σ τ : Type} (area : OutputArea σ τ)

/-- Gives bytes to a stream until it has accepted all of them. A stream that accepts none is
full. -/
def writeAll (bytes : List UInt8) (stream : τ) : Option Fault × τ :=
  match bytes with
  | [] => (none, stream)
  | first :: rest =>
    match h : area.write (first :: rest) stream with
    | .accepted 0 stream' => (some { kind := .writeZero }, stream')
    | .accepted (count + 1) stream' => writeAll (rest.drop count) stream'
    | .interrupted stream' =>
      have := area.patience_lt _ _ _ h
      writeAll (first :: rest) stream'
    | .failed fault stream' => (some fault, stream')
termination_by (bytes.length, area.patience stream)
decreasing_by
  · exact Prod.Lex.left _ _ (by simp only [List.length_drop, List.length_cons]; omega)
  · exact Prod.Lex.right _ this

/-- Writes chunks one after the other, up to the first fault. -/
def writeChunks : List (List UInt8) → τ → Option Fault × τ
  | [], stream => (none, stream)
  | chunk :: rest, stream =>
    match area.writeAll chunk stream with
    | (none, stream) => writeChunks rest stream
    | (some fault, stream) => (some fault, stream)

/-- The life of a stream. A fault ends it at once: what was written is discarded. -/
def run (name : String) (session : Session) (state : σ) : Option (Stage × Fault) × σ :=
  match area.openStream name state with
  | .error (fault, state) => (some (.opening, fault), state)
  | .ok stream =>
    match area.writeChunks session.chunks stream with
    | (some fault, stream) => (some (.writing, fault), area.discard stream)
    | (none, stream) =>
      match if session.flush then area.flush stream else (none, stream) with
      | (some fault, stream) => (some (.flushing, fault), area.discard stream)
      | (none, stream) =>
        if session.commit then
          let (fault?, state) := area.commit stream
          (fault?.map (.committing, ·), state)
        else (none, area.discard stream)

/-- Writes an artifact, flushes and commits. -/
def publish (artifact : Artifact) : StateM σ (Except WriteError Unit) := fun state =>
  match area.run artifact.name ⟨[Text.bytesOf artifact.content], true, true⟩ state with
  | (none, state) => (.ok (), state)
  | (some (_, fault), state) => (.error ⟨artifact.name, fault⟩, state)

end OutputArea

end Stencil
