import Stencil.Output.Area
import Stencil.Output.Path
import Stencil.Output.Tree

/-!
# Output into a directory

An output area below a root directory of a tree. A stream writes to a temporary file beside its
target and takes the target's place when it is committed, so no reader ever sees half a file.
Directories that were made for a stream stay, whatever becomes of it.
-/

namespace Stencil

/-- An area below a root directory. Its files have an extension. -/
structure DirectoryArea where
  root : String
  extension : String := "java"
  tree : Tree := {}
deriving Repr, DecidableEq

/-- A stream into a temporary file, and the path that the file is to have in the end. -/
structure DirectoryStream where
  area : DirectoryArea
  directory : Location
  temporary : String
  path : String
deriving Repr, DecidableEq

namespace DirectoryArea

/-- Opens a stream: makes the directories that lead to its target, and a temporary file there. -/
def openStream (name : String) (area : DirectoryArea) :
    Except (Fault × DirectoryArea) DirectoryStream :=
  match pathFor area.root area.extension name with
  | .error fault => .error (fault, area)
  | .ok path =>
    match area.tree.makeDirectories (directoryOf path) with
    | (.error kind, tree) => .error (⟨kind, none⟩, { area with tree })
    | (.ok directory, tree) =>
      let temporary := tree.freshName
      let tree := tree.put (directory.down temporary) (.file [])
      .ok { area := { area with tree }, directory, temporary, path }

/-- The place of a stream's temporary file. -/
def temporaryPlace (stream : DirectoryStream) : Location :=
  stream.directory.down stream.temporary

/-- What a stream's temporary file holds. -/
def accepted (stream : DirectoryStream) : List UInt8 :=
  match stream.area.tree.node? (temporaryPlace stream) with
  | some (.file content) => content
  | _ => []

/-- The stream when its temporary file has got more bytes. -/
def accept (bytes : List UInt8) (stream : DirectoryStream) : DirectoryStream :=
  let file : Node := .file (accepted stream ++ bytes)
  { stream with area.tree := stream.area.tree.put (temporaryPlace stream) file }

/-- The area when the temporary file of a stream is gone. -/
def discard (stream : DirectoryStream) : DirectoryArea :=
  { stream.area with tree := stream.area.tree.remove (temporaryPlace stream) }

/-- Puts a stream's temporary file in the place of its target. -/
def commit (stream : DirectoryStream) : Option Fault × DirectoryArea :=
  let area := discard stream
  match area.tree.replaceable stream.path with
  | .error kind => (some ⟨kind, none⟩, area)
  | .ok place => (none, { area with tree := area.tree.put place (.file (accepted stream)) })

/-- The area as an output area. -/
def output : OutputArea DirectoryArea DirectoryStream where
  openStream := openStream
  write bytes stream := .accepted bytes.length (accept bytes stream)
  flush stream := (none, stream)
  commit := commit
  discard := discard
  patience _ := 0
  patience_lt _ _ _ h := nomatch h

end DirectoryArea

end Stencil
