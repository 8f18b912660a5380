import Stencil.Keyed
import Stencil.Output.Area

/-!
# Output in memory

An output area that keeps the published texts by name. Any name will do, but only texts can be
published: bytes that are no text are refused when the stream is committed.
-/

namespace Stencil

/-- Published texts by name. A read-only area opens no stream. -/
structure MemoryArea where
  files : Keyed String := []
  readOnly : Bool := false
deriving Repr, DecidableEq

/-- A stream of an area in memory, with what it has accepted. -/
structure MemoryStream where
  area : MemoryArea
  name : String
  accepted : List UInt8 := []
deriving Repr, DecidableEq

namespace MemoryArea

/-- The area with a text under a name. -/
def put (area : MemoryArea) (name content : String) : MemoryArea :=
  { area with files := area.files.put name content }

/-- The text under a name. -/
def get? (area : MemoryArea) (name : String) : Option String :=
  area.files.lookup name

/-- The fault of a read-only area. -/
def readOnlyFault : Fault :=
  ⟨.permissionDenied, some "output area is read-only"⟩

/-- Opens a stream. -/
def openStream (name : String) (area : MemoryArea) :
    Except (Fault × MemoryArea) MemoryStream :=
  if area.readOnly then .error (readOnlyFault, area) else .ok { area, name }

/-- What a stream in memory is when it has accepted more bytes. -/
def accept (bytes : List UInt8) (stream : MemoryStream) : MemoryStream :=
  { stream with accepted := stream.accepted ++ bytes }

/-- Publishes what a stream has accepted, if it is a text. -/
def commit (stream : MemoryStream) : Option Fault × MemoryArea :=
  match Text.decode stream.accepted with
  | .ok content => (none, stream.area.put stream.name (String.ofList content))
  | .error fault => (some ⟨.invalidData, some fault.message⟩, stream.area)

/-- The area as an output area: a stream accepts whatever it is given. -/
def output : OutputArea MemoryArea MemoryStream where
  openStream := openStream
  write bytes stream := .accepted bytes.length (accept bytes stream)
  flush stream := (none, stream)
  commit := commit
  discard stream := stream.area
  patience _ := 0
  patience_lt _ _ _ h := nomatch h

end MemoryArea

end Stencil
