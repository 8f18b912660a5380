/-!
# Places and the paths to them

A place is where something may stand in a tree of directories: names lead to it from the root. A
path is a text that leads from one place to another. `pathSteps` takes it apart into single steps:
empty components and dots stay where they are, double dots go up, and all others go down.

A path has a text of its own beside the steps that it means, and the two do not always agree: a
slash or a dot at its end asks for a directory. So `directoryOf` cuts the text.
-/

namespace Stencil

/-! ### Places -/

/-- A place: the names that lead to it from the root, the last one first, and how many they are.
Places of different depths are told apart without a look at their names. -/
structure Location where
  depth : Nat
  names : List String
  length_names : names.length = depth
deriving Repr, DecidableEq

namespace Location

/-- The place from which all names lead. -/
def root : Location :=
  ⟨0, [], rfl⟩

/-- The place that a name leads to from another. -/
def down (place : Location) (name : String) : Location :=
  ⟨place.depth + 1, name :: place.names, by simp [place.length_names]⟩

/-- The place above another. Nothing is above the root but the root itself. -/
def up (place : Location) : Location :=
  ⟨place.depth - 1, place.names.tail, by simp [place.length_names]⟩

/-- The place that names lead to from the root, in their order. -/
def ofNames (names : List String) : Location :=
  names.foldl down root

/-- The last of the names that lead to a place. -/
def name (place : Location) : String :=
  place.names.headD ""

/-- The names that lead to a place from another one at or above it, in their order. -/
def namesTo? (above place : Location) : Option (List String) :=
  let count := place.depth - above.depth
  if place.names.drop count = above.names then some (place.names.take count).reverse else none

/-- Whether a place is another one or above it. -/
def isAbove (above place : Location) : Bool :=
  (above.namesTo? place).isSome

/-- The path that leads to a place from the root. -/
def path (place : Location) : String :=
  "/" ++ "/".intercalate place.names.reverse

/-- Places are what the names that lead to them are. -/
theorem ext_names {a b : Location} (h : a.names = b.names) : a = b := by
  obtain ⟨m, xs, hm⟩ := a
  obtain ⟨n, ys, hn⟩ := b
  obtain rfl : xs = ys := h
  obtain rfl : m = n := hm.symm.trans hn
  rfl

@[simp] theorem names_root : root.names = [] := rfl

@[simp] theorem names_down (place : Location) (name : String) :
    (place.down name).names = name :: place.names := rfl

@[simp] theorem names_up (place : Location) : place.up.names = place.names.tail := rfl

/-- Going down and up leads back. -/
@[simp] theorem up_down (place : Location) (name : String) : (place.down name).up = place :=
  ext_names rfl

/-- Different names lead to different places, and so do names from different places. -/
@[simp] theorem down_inj {a b : Location} {m n : String} :
    a.down m = b.down n ↔ a = b ∧ m = n := by
  constructor
  · intro h
    have hn := congrArg Location.names h
    simp only [names_down, List.cons.injEq] at hn
    exact ⟨ext_names hn.2, hn.1⟩
  · rintro ⟨rfl, rfl⟩
    rfl

/-- A name leads to something other than the root. -/
@[simp] theorem down_ne_root (place : Location) (name : String) : place.down name ≠ root := by
  intro h
  simpa using congrArg Location.names h

end Location

/-! ### Paths -/

/-- One step along a path. -/
inductive PathStep where
  | stay
  | up
  | down (name : String)
deriving Repr, DecidableEq

/-- The step that a component of a path means. -/
def PathStep.ofComponent (component : String) : PathStep :=
  if component = "" ∨ component = "." then stay
  else if component = ".." then up
  else down component

/-- Whether a path begins at the root, wherever one stands. -/
def isAbsolute (path : String) : Bool :=
  path.toList.head? = some '/'

/-- Whether a slash stands at the end of a path. -/
def endsInSlash (path : String) : Bool :=
  path.toList.getLast? = some '/'

/-- The parts of a path between its slashes. -/
def components (path : String) : List String :=
  (path.toList.splitOn '/').map String.ofList

/-- The steps of a path. -/
def pathSteps (path : String) : List PathStep :=
  (components path).map PathStep.ofComponent

/-- The steps of a path that lead anywhere. -/
def movingSteps (path : String) : List PathStep :=
  (pathSteps path).filter (· ≠ .stay)

/-- Whether a component leads nowhere. -/
def isStay (component : String) : Bool :=
  PathStep.ofComponent component = .stay

/-- The path of the directory in which a path ends: what stands before its last component that
leads anywhere. Components before that one that lead nowhere go too. -/
def directoryOf (path : String) : String :=
  let before := (((components path).reverse.dropWhile isStay).drop 1).dropWhile isStay
  if before.isEmpty && isAbsolute path then "/" else "/".intercalate before.reverse

/-- The components of a path before its last one, and the last one. Slashes at the end do not
count. -/
def splitEnd (path : String) : List String × String :=
  match (components path).reverse.dropWhile (· = "") with
  | [] => ([], "")
  | last :: before => (before.reverse, last)

/-- Whether a dot stands at the end of a path, behind its other components. -/
def endsInDot (path : String) : Bool :=
  match splitEnd path with
  | (_ :: _, ".") => true
  | _ => false

end Stencil
