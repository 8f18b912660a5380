import Stencil.Fault
import Stencil.Text.Space

/-!
# Paths of artifacts

An artifact's file lies below a root directory: the dots of its name lead down one directory each,
and an extension is added to the last segment. Names with segments that are no file names, or that
would lead elsewhere, have no path.

Paths are texts and are joined as texts; nothing in them is resolved.
-/

namespace Stencil

/-- A path with a further one below it. A path that begins with a slash stands for itself. -/
def joinPath (path below : String) : String :=
  if below.toList.head? = some '/' then below
  else if path.isEmpty || path.toList.getLast? = some '/' then path ++ below
  else path ++ "/" ++ below

/-- Whether a segment of a name may name a file or a directory. -/
def isSafeSegment (segment : List Char) : Bool :=
  !segment.isEmpty &&
    segment.all (fun c => c != '/' && c != '\\' && c != '\x00') &&
    Text.trim segment == segment

/-- What is said of a name with a segment that is not safe. -/
def unsafeNameMessage (name : String) (segment : List Char) : String :=
  s!"'{name}' is not a valid source file name (segment '{String.ofList segment}')"

/-- The segments of a name, which all are safe. -/
def safeSegments (name : String) : Except Fault (List String) :=
  let segments := name.toList.splitOn '.'
  match segments.find? (!isSafeSegment ·) with
  | some bad => .error ⟨.invalidInput, some (unsafeNameMessage name bad)⟩
  | none => .ok (segments.map String.ofList)

/-- The path of a name's file below a root. -/
def pathFor (root extension name : String) : Except Fault String := do
  let segments ← safeSegments name
  let file := segments.getLastD "" ++ "." ++ extension
  return joinPath (segments.dropLast.foldl joinPath root) file

end Stencil
