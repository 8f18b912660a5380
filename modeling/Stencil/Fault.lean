/-!
# Faults of files and streams

Why an operation on a file or a stream did not succeed: a kind, and a text of its own if whoever
reports the fault has more to say than the operating system would.
-/

namespace Stencil

/-- The kinds of faults. -/
inductive FaultKind where
  | notFound
  | permissionDenied
  | alreadyExists
  | invalidInput
  | invalidData
  | notADirectory
  | isADirectory
  /-- A file name is too long. -/
  | invalidFilename
  /-- What is to be replaced is in use. -/
  | resourceBusy
  /-- A stream takes no more bytes. -/
  | writeZero
  | interrupted
  | other
deriving Repr, DecidableEq

/-- What is said of a fault of a kind if its reporter has nothing to say. -/
def FaultKind.text : FaultKind → String
  | .notFound => "No such file or directory (os error 2)"
  | .permissionDenied => "Permission denied (os error 13)"
  | .alreadyExists => "File exists (os error 17)"
  | .invalidInput => "file name contained an unexpected NUL byte"
  | .invalidData => "stream did not contain valid UTF-8"
  | .notADirectory => "Not a directory (os error 20)"
  | .isADirectory => "Is a directory (os error 21)"
  | .invalidFilename => "File name too long (os error 36)"
  | .resourceBusy => "Device or resource busy (os error 16)"
  | .writeZero => "failed to write whole buffer"
  | .interrupted => "Interrupted system call (os error 4)"
  | .other => "other error"

/-- A fault. -/
structure Fault where
  kind : FaultKind
  /-- What its reporter says of it. -/
  detail : Option String := none
deriving Repr, DecidableEq

/-- The fault in words. -/
def Fault.text (f : Fault) : String :=
  f.detail.getD f.kind.text

end Stencil
