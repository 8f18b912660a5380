import Stencil.Fault
import Stencil.Output.Location
import Stencil.Total

/-!
# Trees of directories and files

A directory tree as a value: what stands at each place, and where relative paths begin. That is the
tree's home; it is a directory, like all places above it. `follow` goes along a path that is there,
`makeFrom` makes the directories of a path that are not, and the operations on files are built on
the two.

Single names and whole paths have a limited length, unless the tree has no limits. A path that is
too long, or has a null character in it, fails before a step is made.
-/

namespace Stencil

/-- What stands at a place. -/
inductive Node where
  | directory
  | file (content : List UInt8)
deriving Repr, DecidableEq

/-- What stands at the places of a tree, its home and those above it apart, and how many bytes a
name and a path may have. -/
structure Tree where
  home : Location := .root
  nodes : List (Location × Node) := []
  nameLimit : Option Nat := some 255
  pathLimit : Option Nat := some 4095
deriving Repr, DecidableEq

namespace Tree

/-- What stands at a place. -/
def node? (t : Tree) (place : Location) : Option Node :=
  if place.isAbove t.home then some .directory else t.nodes.lookup place

/-- The tree without what stands at a place. -/
def remove (t : Tree) (place : Location) : Tree :=
  { t with nodes := t.nodes.filter (·.1 ≠ place) }

/-- The tree with a node at a place. -/
def put (t : Tree) (place : Location) (node : Node) : Tree :=
  { t with nodes := (place, node) :: (t.remove place).nodes }

/-! ### Going along paths -/

/-- Whether a name is longer than a name may be. -/
def isTooLong (t : Tree) (name : String) : Bool :=
  t.nameLimit.any (· < name.utf8ByteSize)

/-- Why a path leads nowhere, whatever stands in the tree. -/
def pathFault? (t : Tree) (path : String) : Option FaultKind :=
  if path.toList.contains '\x00' then some .invalidInput
  else if t.pathLimit.any (· < path.utf8ByteSize) then some .invalidFilename
  else none

/-- Where a path begins. -/
def start (t : Tree) (path : String) : Location :=
  if isAbsolute path then .root else t.home

/-- The end of a path that is there. A step can only be made in a directory. -/
def follow (t : Tree) : Location → List PathStep → Except FaultKind Location
  | place, [] => .ok place
  | place, step :: rest =>
    if t.node? place ≠ some .directory then .error .notADirectory
    else
      match step with
      | .stay => follow t place rest
      | .up => follow t place.up rest
      | .down name =>
        if t.isTooLong name then .error .invalidFilename
        else if (t.node? (place.down name)).isNone then .error .notFound
        else follow t (place.down name) rest

/-- Goes along a path from a place and makes the directories that are not there. Where a file is in
the way, those made before it remain. Such a file is no directory to go through, but a thing that is
there already if it was to be the last directory, or if one before it has been `made`. -/
def makeFrom (made : Bool) : Location → List PathStep → Tree → Except FaultKind Location × Tree
  | place, [], t => (.ok place, t)
  | place, .stay :: rest, t => makeFrom made place rest t
  | place, .up :: rest, t => makeFrom made place.up rest t
  | place, .down name :: rest, t =>
    if t.isTooLong name then (.error .invalidFilename, t)
    else
      match t.node? (place.down name) with
      | none => makeFrom true (place.down name) rest (t.put (place.down name) .directory)
      | some .directory => makeFrom made (place.down name) rest t
      | some (.file _) =>
        (.error (if made || rest.isEmpty then .alreadyExists else .notADirectory), t)

/-- The place that a path leads to. -/
def locate (t : Tree) (path : String) : Except FaultKind Location :=
  match t.pathFault? path with
  | some kind => .error kind
  | none => if path.isEmpty then .error .notFound else t.follow (t.start path) (pathSteps path)

/-- Whether anything stands where a path leads. -/
def isThere (t : Tree) (path : String) : Bool :=
  (t.locate path).isOk

/-- The directory in which a path ends, the last component of the path, and what that means.
Slashes at the end do not count. -/
def locateEnd (t : Tree) (path : String) : Except FaultKind (Location × PathStep) := do
  if let some kind := t.pathFault? path then throw kind
  let (before, last) := splitEnd path
  let directory ← t.follow (t.start path) (before.map PathStep.ofComponent)
  if t.node? directory ≠ some .directory then throw .notADirectory
  return (directory, PathStep.ofComponent last)

/-! ### Operations on files -/

/-- Makes the directories of a path and tells the place of the last one. A dot at its end is not
made but looked for, once the directories around it are made. The root is there, however it is
written. -/
def makeDirectories (path : String) (t : Tree) : Except FaultKind Location × Tree :=
  if isAbsolute path && (movingSteps path).isEmpty then (.ok .root, t)
  else
    match t.pathFault? path with
    | some kind => (.error kind, t)
    | none =>
      if endsInDot path then
        match t.locate path with
        | .error .notFound =>
          match t.makeFrom false (t.start path) (movingSteps path).dropLast with
          | (.ok _, t) => (t.locate path, t)
          | (.error kind, t) => (.error kind, t)
        | result => (result, t)
      else t.makeFrom false (t.start path) (movingSteps path)

/-- The content of the file at the end of a path. -/
def readFile (t : Tree) (path : String) : Except FaultKind (List UInt8) := do
  match t.node? (← t.locate path) with
  | some (.file content) => return content
  | _ => throw .isADirectory

/-- The place at the end of a path at which a file may be written. Its directory has to be
there. -/
def writable (t : Tree) (path : String) : Except FaultKind Location := do
  if path.isEmpty then throw .notFound
  let (directory, last) ← t.locateEnd path
  let .down name := last | throw .isADirectory
  if endsInSlash path then throw .isADirectory
  if t.isTooLong name then throw .invalidFilename
  if t.node? (directory.down name) = some .directory then throw .isADirectory
  return directory.down name

/-- Puts a file at the end of a path. -/
def writeFile (path : String) (content : List UInt8) (t : Tree) : Except FaultKind Unit × Tree :=
  match t.writable path with
  | .ok place => (.ok (), t.put place (.file content))
  | .error kind => (.error kind, t)

/-- The place at the end of a path to which a file may be moved. A path that ends in dots leads to
a directory that is in use, and a slash at the end asks for a directory, which a file is not. -/
def replaceable (t : Tree) (path : String) : Except FaultKind Location := do
  let (directory, last) ← t.locateEnd path
  let .down name := last | throw .resourceBusy
  if t.isTooLong name then throw .invalidFilename
  if endsInSlash path then throw .notADirectory
  if t.node? (directory.down name) = some .directory then throw .isADirectory
  return directory.down name

/-- Whether anything stands below a place. -/
def hasChildren (t : Tree) (place : Location) : Bool :=
  t.nodes.any fun entry => entry.1.up = place && entry.1 ≠ place

/-- The files below a tree's home with their contents, and the directories there in which there is
nothing, each by its path from home. The path of a directory ends in a slash. -/
def listing (t : Tree) : List (String × Option (List UInt8)) :=
  t.nodes.filterMap fun (place, node) => do
    let path := "/".intercalate (← t.home.namesTo? place)
    match node with
    | .file content => return (path, some content)
    | .directory => if t.hasChildren place then none else return (path ++ "/", none)

/-- A name that nothing in a tree has: it is longer than all of them. -/
def freshName (t : Tree) : String :=
  let length := total String.length t.home.names + total (fun entry => entry.1.name.length) t.nodes
  String.ofList ('.' :: List.replicate length 't')

/-! ### Look-up -/

/-- Home is a directory. -/
@[simp] theorem node?_home (t : Tree) : t.node? t.home = some .directory := by
  simp [node?, Location.isAbove, Location.namesTo?]

@[simp] theorem home_put (t : Tree) (place : Location) (node : Node) :
    (t.put place node).home = t.home := rfl

@[simp] theorem home_remove (t : Tree) (place : Location) : (t.remove place).home = t.home := rfl

@[simp] theorem nameLimit_put (t : Tree) (place : Location) (node : Node) :
    (t.put place node).nameLimit = t.nameLimit := rfl

@[simp] theorem nameLimit_remove (t : Tree) (place : Location) :
    (t.remove place).nameLimit = t.nameLimit := rfl

@[simp] theorem pathLimit_put (t : Tree) (place : Location) (node : Node) :
    (t.put place node).pathLimit = t.pathLimit := rfl

@[simp] theorem pathLimit_remove (t : Tree) (place : Location) :
    (t.remove place).pathLimit = t.pathLimit := rfl

theorem lookup_filter_ne {place other : Location} (nodes : List (Location × Node)) :
    (nodes.filter (·.1 ≠ place)).lookup other =
      if other = place then none else nodes.lookup other := by
  induction nodes with
  | nil => simp
  | cons entry rest ih =>
    obtain ⟨p, n⟩ := entry
    by_cases hp : p = place
    · subst hp
      rw [List.filter_cons_of_neg (by simp), ih, List.lookup_cons]
      by_cases ho : other = p
      · simp [ho]
      · simp [ho, beq_false_of_ne ho]
    · rw [List.filter_cons_of_pos (by simp [hp]), List.lookup_cons, List.lookup_cons, ih]
      by_cases ho : other = p
      · simp [ho, hp]
      · simp [beq_false_of_ne ho]

/-- Removing what stands at a place leaves all other places as they were. -/
theorem node?_remove {t : Tree} {place other : Location} (h : other.isAbove t.home = false) :
    (t.remove place).node? other = if other = place then none else t.node? other := by
  simp only [node?, remove, h, Bool.false_eq_true, if_false]
  exact lookup_filter_ne t.nodes

/-- Putting a node at a place leaves all other places as they were. -/
theorem node?_put {t : Tree} {place other : Location} {node : Node}
    (h : other.isAbove t.home = false) :
    (t.put place node).node? other = if other = place then some node else t.node? other := by
  simp only [node?, put, remove, h, Bool.false_eq_true, if_false, List.lookup_cons]
  by_cases ho : other = place
  · simp [ho]
  · simp only [ho, if_false, beq_false_of_ne ho]
    rw [lookup_filter_ne, if_neg ho]

end Tree

end Stencil
