import Stencil.Command.Execution

/-!
# The command line

Runs the commands on the files of the machine. All that is decided is decided by
`Stencil.execute`; here it is given access to files, and what it shows is printed.
-/

namespace Stencil

/-- The fault behind an error of the machine. -/
def faultOfError (e : IO.Error) : Fault :=
  match e with
  | .noFileOrDirectory .. | .noSuchThing .. => { kind := .notFound }
  | .permissionDenied .. => { kind := .permissionDenied }
  | .alreadyExists .. => { kind := .alreadyExists }
  | .invalidArgument .. => { kind := .invalidInput }
  | .inappropriateType .. => { kind := .notADirectory }
  | .interrupted .. => { kind := .interrupted }
  | e => ⟨.other, some (toString e)⟩

/-- The result of an action that may fail. -/
def attempt {α : Type} (action : IO α) : IO (Except Fault α) := do
  try return .ok (← action)
  catch e => return .error (faultOfError e)

/-- Writes a text beside a path and moves it there when it is complete. -/
def replaceFile (path content : String) : IO Unit := do
  let parent := directoryOf path
  unless parent.isEmpty do IO.FS.createDirAll parent
  let temporary := joinPath parent s!".tmp{← IO.rand 0 999999999}"
  try
    IO.FS.writeFile temporary content
    IO.FS.rename temporary path
  catch e =>
    try IO.FS.removeFile temporary catch _ => pure ()
    throw e

/-- The files of the machine. -/
def machineAccess : FileAccess IO where
  read path := attempt do return (← IO.FS.readBinFile path).toList
  isThere path := do ((← IO.currentDir) / path).pathExists
  makeDirectories path := attempt (IO.FS.createDirAll path)
  write path content := attempt (IO.FS.writeFile path content)
  publish root artifact := do
    let result ← match pathFor root "java" artifact.name with
      | .error fault => pure (.error fault)
      | .ok path => attempt (replaceFile path artifact.content)
    return result.mapError (⟨artifact.name, ·⟩)

/-- Prints a line where it belongs. -/
def printLine (line : Line) : IO Unit :=
  if line.isDiagnostic then IO.eprintln line.render else IO.println line.render

/-- Prints why a command failed: an error, and below it what caused that. -/
def printChain (chain : List String) : IO Unit := do
  IO.eprintln "Error: "
  for (message, number) in chain.zipIdx do
    IO.eprintln s!"   {number}: {message}"

/-- Prints how a command ends. -/
def printEnding : Ending → IO Unit
  | .shown lines failure? => do
    for line in lines do printLine line
    match failure? with
    | some chain => printChain chain
    | none => pure ()
  | .stopped e => do
    IO.eprintln e.message
    match e.help? with
    | some help => IO.eprintln ("  help: " ++ help)
    | none => pure ()
  | .script _ => pure ()
  | .refused => IO.eprintln "Usage: etch [OPTIONS] <COMMAND>"

end Stencil

/-- Does what the command line asks for. -/
def main (args : List String) : IO UInt32 := do
  let ending ← Stencil.execute Stencil.machineAccess args
  Stencil.printEnding ending
  return ending.exitCode.toUInt32
