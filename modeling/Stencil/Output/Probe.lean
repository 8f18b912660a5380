import Stencil.Output.Memory

/-!
# Output under observation

An area in memory that fails on demand: under chosen names, one stage of a stream's life goes wrong.
It can be made to accept only a few bytes at a time, and it keeps a record of what it was asked to
do.
-/

namespace Stencil

/-- What can be made to go wrong. -/
inductive Mishap where
  | opening
  | writing
  /-- No byte is accepted. -/
  | full
  /-- The first bytes are asked for again. -/
  | interruption
  | flushing
  | committing
deriving Repr, DecidableEq

/-- What goes wrong, and under which names: all names if none is listed. At most `chunk` bytes are
accepted at a time. -/
structure MishapPlan where
  mishap : Option Mishap := none
  names : List String := []
  chunk : Option Nat := none
deriving Repr, DecidableEq

/-- What goes wrong under a name. -/
def MishapPlan.mishap? (plan : MishapPlan) (name : String) : Option Mishap :=
  if plan.names.isEmpty || plan.names.contains name then plan.mishap else none

/-- What an area was asked to do, and whether it did. -/
inductive ProbeEvent where
  | opened (name : String)
  | wrote (count : Nat)
  | writeFailed
  | writeInterrupted
  | flushed
  | flushFailed
  | committed
  | commitFailed
  | closed
deriving Repr, DecidableEq

/-- The event in words. -/
def ProbeEvent.text : ProbeEvent → String
  | .opened name => "open " ++ name
  | .wrote count => s!"write {count}"
  | .writeFailed => "write failed"
  | .writeInterrupted => "write interrupted"
  | .flushed => "flush"
  | .flushFailed => "flush failed"
  | .committed => "commit"
  | .commitFailed => "commit failed"
  | .closed => "close"

/-- An area in memory with a plan and a record of events, oldest first. -/
structure ProbeArea where
  plan : MishapPlan
  memory : MemoryArea := {}
  events : List ProbeEvent := []
deriving Repr, DecidableEq

/-- A stream under observation: a stream in memory, what is to go wrong with it, and whether it has
still to ask for its first bytes again. -/
structure ProbeStream where
  plan : MishapPlan
  events : List ProbeEvent
  memory : MemoryStream
  mishap : Option Mishap
  interruptions : Nat
deriving Repr, DecidableEq

namespace ProbeArea

/-- The fault of a mishap. -/
def faultOf (text : String) : Fault :=
  ⟨.other, some text⟩

/-- A stream with one more event on record. -/
def note (event : ProbeEvent) (stream : ProbeStream) : ProbeStream :=
  { stream with events := stream.events ++ [event] }

/-- The area behind a stream, once it is closed. -/
def closed (stream : ProbeStream) (memory : MemoryArea) : ProbeArea :=
  ⟨stream.plan, memory, stream.events ++ [.closed]⟩

/-- Opens a stream. -/
def openStream (name : String) (area : ProbeArea) : Except (Fault × ProbeArea) ProbeStream :=
  let events := area.events ++ [.opened name]
  let mishap := area.plan.mishap? name
  if mishap = some .opening then .error (faultOf "cannot open", { area with events })
  else
    match MemoryArea.openStream name area.memory with
    | .error (fault, memory) => .error (fault, { area with memory, events })
    | .ok memory =>
      .ok ⟨area.plan, events, memory, mishap, if mishap = some .interruption then 1 else 0⟩

/-- Gives bytes to a stream. -/
def write (bytes : List UInt8) (stream : ProbeStream) : WriteReply ProbeStream :=
  match stream.interruptions with
  | left + 1 => .interrupted (note .writeInterrupted { stream with interruptions := left })
  | 0 =>
    match stream.mishap with
    | some .writing => .failed (faultOf "disk full") (note .writeFailed stream)
    | some .full => .accepted 0 (note (.wrote 0) stream)
    | _ =>
      let count := min bytes.length (stream.plan.chunk.getD bytes.length)
      let memory := MemoryArea.accept (bytes.take count) stream.memory
      .accepted count (note (.wrote count) { stream with memory })

/-- Flushes a stream. -/
def flush (stream : ProbeStream) : Option Fault × ProbeStream :=
  if stream.mishap = some .flushing then (some (faultOf "flush failed"), note .flushFailed stream)
  else (none, note .flushed stream)

/-- Commits a stream. -/
def commit (stream : ProbeStream) : Option Fault × ProbeArea :=
  if stream.mishap = some .committing then
    (some (faultOf "commit failed"), closed (note .commitFailed stream) stream.memory.area)
  else
    let (fault?, memory) := MemoryArea.commit stream.memory
    (fault?, closed (note .committed stream) memory)

/-- The area as an output area. -/
def output : OutputArea ProbeArea ProbeStream where
  openStream := openStream
  write := write
  flush := flush
  commit := commit
  discard stream := closed stream stream.memory.area
  patience stream := stream.interruptions
  patience_lt bytes stream stream' h := by
    unfold write at h
    split at h
    · next left hleft =>
      injection h with h
      subst h
      simp only [note, hleft]
      omega
    · split at h <;> simp at h

/-- The events on record, and the area without them. -/
def takeEvents (area : ProbeArea) : List ProbeEvent × ProbeArea :=
  (area.events, { area with events := [] })

end ProbeArea

end Stencil
