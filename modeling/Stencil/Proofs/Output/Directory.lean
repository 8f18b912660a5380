import Stencil.Output.Directory
import Stencil.Proofs.Output.FilePaths
import Stencil.Proofs.Output.Publishing
import Stencil.Proofs.Output.Trees
import Stencil.Proofs.Success

/-!
# Publishing into a directory

An area whose root leads to a directory, and that has no limits, publishes an artifact with a safe
name unless something is in the way: its text is put in the file of the name, the directories of
the name are made, and nothing else changes (`DirectoryArea.LeadsTo.publish`). A temporary file is
all that a stream adds to the tree (`DirectoryArea.Holding`). It is gone in the end, and nobody can
tell that it was there. Every other artifact is refused and leaves the area as it was
(`DirectoryArea.publish_of_not_isSafeName`).
-/

namespace Stencil

/-! ### Files at the ends of paths -/

namespace Tree

variable {t : Tree} {path name : String} {before : List String} {directory : Location}

theorem pathFault?_eq_none (hlimit : t.pathLimit = none) (hnull : '\x00' ∉ path.toList) :
    t.pathFault? path = none := by
  unfold pathFault?
  rw [hlimit, if_neg (by rwa [List.contains_iff_mem])]
  rfl

theorem start_congr {path other : String} (h : isAbsolute path = isAbsolute other) :
    t.start path = t.start other := by
  unfold start
  rw [h]

theorem makeDirectories_directoryOf (h : EndsIn path before name) (hlimit : t.pathLimit = none)
    (hnull : '\x00' ∉ path.toList) :
    t.makeDirectories (directoryOf path) =
      t.makeFrom false (t.start path) ((before.map .ofComponent).filter (· ≠ .stay)) := by
  -- the directory has no other characters than the path, beside the slash of the root
  have hclean : '\x00' ∉ (directoryOf path).toList := fun hmem =>
    (h.mem_directoryOf hmem).elim (by decide) hnull
  unfold makeDirectories
  rw [h.isAbsolute_directoryOf, h.movingSteps_directoryOf]
  split
  · next hroot =>
    -- the directory is the root
    rw [Bool.and_eq_true, List.isEmpty_iff] at hroot
    unfold start
    rw [hroot.2, if_pos hroot.1]
    rfl
  · rw [pathFault?_eq_none hlimit hclean, h.endsInDot_directoryOf,
      start_congr h.isAbsolute_directoryOf]
    rfl

/-- A path is there with its directory, but for its last name. -/
theorem locateEnd_eq (h : EndsIn path before name) (hfault : t.pathFault? path = none)
    (hfollow : t.follow (t.start path) (before.map .ofComponent) = .ok directory)
    (hdirectory : t.node? directory = some .directory) :
    t.locateEnd path = .ok (directory, .down name) := by
  unfold locateEnd
  rw [hfault, h.splitEnd_eq]
  dsimp only
  rw [hfollow]
  simp only [bind, Except.bind, pure, Except.pure, hdirectory, h.step, ne_eq, not_true_eq_false,
    if_false]

theorem replaceable_eq (h : EndsIn path before name) (hfault : t.pathFault? path = none)
    (hshort : t.isTooLong name = false)
    (hfollow : t.follow (t.start path) (before.map .ofComponent) = .ok directory)
    (hdirectory : t.node? directory = some .directory)
    (hfile : t.node? (directory.down name) ≠ some .directory) :
    t.replaceable path = .ok (directory.down name) := by
  unfold replaceable
  rw [locateEnd_eq h hfault hfollow hdirectory]
  simp only [bind, Except.bind, pure, Except.pure, hshort, h.endsInSlash_eq, hfile, if_false,
    Bool.false_eq_true]

/-- A file at the end of a path is found and read. -/
theorem readFile_eq (h : EndsIn path before name) (hfault : t.pathFault? path = none)
    (hshort : t.isTooLong name = false)
    (hfollow : t.follow (t.start path) (before.map .ofComponent) = .ok directory)
    (hdirectory : t.node? directory = some .directory) {content : List UInt8}
    (hfile : t.node? (directory.down name) = some (.file content)) :
    t.locate path = .ok (directory.down name) ∧ t.readFile path = .ok content := by
  -- the steps lead to the directory, and the name is one more step down
  have hlocate : t.locate path = .ok (directory.down name) := by
    unfold locate
    rw [hfault, h.pathSteps_eq, follow_append, hfollow]
    have hne : ¬ path.isEmpty = true := mt String.isEmpty_iff.1 h.path_ne_empty
    dsimp only
    rw [if_neg hne]
    exact follow_down hdirectory hshort hfile []
  refine ⟨hlocate, ?_⟩
  unfold readFile
  rw [hlocate]
  simp only [bind, Except.bind, pure, Except.pure, hfile]

end Tree

/-! ### Areas below a directory -/

namespace DirectoryArea

/-- **The root of an area leads to a directory**, and there are no limits. -/
structure LeadsTo (area : DirectoryArea) (place : Location) : Prop where
  nameLimit : area.tree.nameLimit = none
  pathLimit : area.tree.pathLimit = none
  root : '\x00' ∉ area.root.toList
  extension : '/' ∉ area.extension.toList ∧ '\x00' ∉ area.extension.toList
  found : area.tree.follow (area.tree.start area.root) (pathSteps area.root) = .ok place
  directory : area.tree.node? place = some .directory

variable {area : DirectoryArea} {place : Location}

theorem LeadsTo.extends (h : area.LeadsTo place) {tree : Tree} (htree : area.tree.Extends tree) :
    LeadsTo { area with tree } place where
  nameLimit := htree.nameLimit.trans h.nameLimit
  pathLimit := htree.pathLimit.trans h.pathLimit
  root := h.root
  extension := h.extension
  found := by
    rw [htree.start_eq]
    exact htree.follow h.found
  directory := htree.node _ _ h.directory

theorem LeadsTo.follow (h : area.LeadsTo place) :
    area.tree.follow (area.tree.start area.root) ((rootComponents area.root).map .ofComponent) =
      .ok place := by
  have hfound := h.found
  rcases pathSteps_eq_or area.root with heq | heq <;> rw [heq] at hfound
  · exact hfound
  · -- the last step stays where it is
    rw [Tree.follow_append] at hfound
    obtain ⟨last, hlast, hstay⟩ := bind_ok hfound
    obtain ⟨-, ⟨-, hend⟩ | ⟨hup, -⟩ | ⟨name, hdown, -⟩⟩ := Tree.follow_cons_ok hstay
    · rw [hlast, ← Except.ok.inj hend]
    · contradiction
    · contradiction

/-! ### The temporary file -/

/-- A stream whose temporary file has just been made. -/
def freshStream (area : DirectoryArea) (directory : Location) (path : String) : DirectoryStream :=
  let temporary := area.tree.freshName
  let tree := area.tree.put (directory.down temporary) (.file [])
  { area := { area with tree }, directory, temporary, path }

theorem temporaryPlace_ne (area : DirectoryArea) (directory : Location) :
    area.tree.node? (directory.down area.tree.freshName) ≠ some .directory :=
  Tree.ne_directory_of_eq_none (Tree.node?_freshName _ _)

/-- **A stream that holds some bytes**: it is one of a path, its temporary file stands in a directory
of the area that it came from, and the file is all that it adds to the tree. -/
structure Holding (area : DirectoryArea) (directory : Location) (path : String)
    (bytes : List UInt8) (stream : DirectoryStream) : Prop where
  directory_eq : stream.directory = directory
  temporary_eq : stream.temporary = area.tree.freshName
  path_eq : stream.path = path
  area_eq : stream.area = { area with tree := stream.area.tree }
  alike : area.tree.Alike stream.area.tree
  node : ∀ x, stream.area.tree.node? x =
    if x = directory.down area.tree.freshName then some (.file bytes) else area.tree.node? x

theorem holding_freshStream (area : DirectoryArea) (directory : Location) (path : String) :
    Holding area directory path [] (freshStream area directory path) where
  directory_eq := rfl
  temporary_eq := rfl
  path_eq := rfl
  area_eq := rfl
  alike := Tree.alike_put _ _ _
  node := Tree.node?_put_of_ne (temporaryPlace_ne area directory) (.file [])

namespace Holding

variable {directory : Location} {path : String} {bytes : List UInt8} {stream : DirectoryStream}

theorem node?_temporaryPlace (h : Holding area directory path bytes stream) :
    stream.area.tree.node? (temporaryPlace stream) = some (.file bytes) := by
  unfold temporaryPlace
  rw [h.directory_eq, h.temporary_eq, h.node, if_pos rfl]

theorem temporaryPlace_ne_directory (h : Holding area directory path bytes stream) :
    stream.area.tree.node? (temporaryPlace stream) ≠ some .directory := by
  rw [h.node?_temporaryPlace]
  exact fun hdirectory => nomatch hdirectory

theorem accepted_eq (h : Holding area directory path bytes stream) : accepted stream = bytes := by
  unfold accepted
  rw [h.node?_temporaryPlace]

/-- More bytes are added to those that are there. -/
theorem accept (h : Holding area directory path bytes stream) (more : List UInt8) :
    Holding area directory path (bytes ++ more) (DirectoryArea.accept more stream) where
  directory_eq := h.directory_eq
  temporary_eq := h.temporary_eq
  path_eq := h.path_eq
  area_eq := by
    unfold DirectoryArea.accept
    rw [h.area_eq]
  alike := h.alike.trans (Tree.alike_put _ _ _)
  -- what is accepted is added to what stands under the fresh name
  node x := by
    unfold DirectoryArea.accept
    rw [h.accepted_eq, Tree.node?_put_of_ne h.temporaryPlace_ne_directory, h.node]
    unfold temporaryPlace
    rw [h.directory_eq, h.temporary_eq]
    split <;> rfl

theorem taken (h : Holding area directory path bytes stream) (more : List UInt8) :
    Holding area directory path (bytes ++ more)
      (OutputArea.taken DirectoryArea.accept more stream) := by
  unfold OutputArea.taken
  split
  · next hempty =>
    rw [List.isEmpty_iff.1 hempty, List.append_nil]
    exact h
  · exact h.accept more

/-- When the temporary file is gone, there is nothing that tells of it. -/
theorem exists_discard (h : Holding area directory path bytes stream) :
    ∃ tree, discard stream = { area with tree } ∧ area.tree.Alike tree ∧
      ∀ x, tree.node? x = area.tree.node? x := by
  refine ⟨stream.area.tree.remove (temporaryPlace stream), ?_,
    h.alike.trans (Tree.alike_remove _ _), fun x => ?_⟩
  · unfold discard
    rw [h.area_eq]
  · rw [Tree.node?_remove_of_ne h.temporaryPlace_ne_directory, h.node]
    unfold temporaryPlace
    rw [h.directory_eq, h.temporary_eq]
    -- nothing stood under the fresh name before the stream was opened
    split
    · next heq => rw [heq, Tree.node?_freshName]
    · rfl

/-- **When a stream is committed**, its temporary file is gone and its path decides. -/
theorem exists_commit (h : Holding area directory path bytes stream) :
    ∃ tree, area.tree.Alike tree ∧ (∀ x, tree.node? x = area.tree.node? x) ∧
      commit stream =
        match tree.replaceable path with
        | .error kind => (some ⟨kind, none⟩, { area with tree })
        | .ok place => (none, { area with tree := tree.put place (.file bytes) }) := by
  obtain ⟨tree, hdiscard, halike, hnode⟩ := h.exists_discard
  refine ⟨tree, halike, hnode, ?_⟩
  unfold commit
  cases hreplace : tree.replaceable path with
  | error kind => simp only [hdiscard, h.path_eq, hreplace]
  | ok place => simp only [hdiscard, h.path_eq, h.accepted_eq, hreplace]

end Holding

/-- **A fresh stream that was written to** holds what was written. -/
theorem holding_taken (area : DirectoryArea) (directory : Location) (path : String)
    (bytes : List UInt8) :
    Holding area directory path bytes
      (OutputArea.taken accept bytes (freshStream area directory path)) :=
  (holding_freshStream area directory path).taken bytes

/-! ### Publishing -/

/-- The place of a name's file, when its directories lead down from another place. -/
def filePlace (extension : String) (place : Location) (name : String) : Location :=
  (place.downAll (directoryNames name)).down (fileName extension name)

theorem filePlace_eq (extension : String) (place : Location) (name : String) :
    filePlace extension place name =
      place.downAll (directoryNames name ++ [fileName extension name]) :=
  (Location.downAll_concat _ _ _).symm

theorem fileNames_ne_nil (extension name : String) :
    directoryNames name ++ [fileName extension name] ≠ [] :=
  List.append_ne_nil_of_right_ne_nil _ (List.cons_ne_nil _ _)

/-- **No file is on the way to another**: it has a dot in its name, and no directory has. -/
theorem filePlace_not_mem_along (extension : String) (place : Location) (name other : String) :
    filePlace extension place name ∉ place.along (directoryNames other) := by
  rw [Location.mem_along]
  rintro ⟨front, -, hfront, heq⟩
  rw [filePlace_eq, Location.downAll_inj] at heq
  -- the file would be one of the other name's directories
  have hmem : fileName extension name ∈ directoryNames other := by
    refine hfront.mem ?_
    rw [← heq]
    exact List.mem_append_right _ (List.mem_singleton_self _)
  exact dot_not_mem_of_mem_directoryNames hmem (dot_mem_fileName extension name)

theorem filePlace_inj {extension : String} {a b : String}
    (h : filePlace extension place a = filePlace extension place b) : a = b := by
  unfold filePlace at h
  obtain ⟨hdirectories, hfile⟩ := Location.down_inj.1 h
  exact name_inj (Location.downAll_inj.1 hdirectories) hfile

theorem node?_downAll {tree : Tree} {names : List String}
    (hplace : tree.node? place = some .directory)
    (halong : ∀ x ∈ place.along names, tree.node? x = some .directory) :
    tree.node? (place.downAll names) = some .directory := by
  by_cases hnone : names = []
  · rw [hnone]
    exact hplace
  · exact halong _ (Location.mem_along.2 ⟨names, hnone, List.prefix_rfl, rfl⟩)

theorem map_directoryNames {name : String} (hsafe : IsSafeName name) :
    (directoryNames name).map PathStep.ofComponent = (directoryNames name).map .down :=
  List.map_congr_left fun _ hmem => (directoryNames_spec hsafe hmem).1

/-- **The path of a safe name leads down from the directory** through those of the name. -/
theorem LeadsTo.follow_filePath (h : area.LeadsTo place) {name : String}
    (hsafe : IsSafeName name)
    (halong : ∀ x ∈ place.along (directoryNames name), area.tree.node? x = some .directory) :
    area.tree.follow (area.tree.start (filePath area.root area.extension name))
        ((rootComponents area.root ++ directoryNames name).map .ofComponent) =
      .ok (place.downAll (directoryNames name)) := by
  obtain ⟨-, habsolute, -⟩ := filePath_spec hsafe h.extension.1 h.extension.2 area.root
  rw [Tree.start_congr habsolute, List.map_append, Tree.follow_append, h.follow,
    map_directoryNames hsafe]
  exact Tree.follow_downAll (fun n _ => Tree.isTooLong_eq_false h.nameLimit n) h.directory halong

/-- The directories of a safe name are made, if no file is in the way. -/
theorem LeadsTo.makeDirectories (h : area.LeadsTo place) {name : String} (hsafe : IsSafeName name)
    (hway : ∀ x ∈ place.along (directoryNames name),
      area.tree.node? x = none ∨ area.tree.node? x = some .directory) :
    ∃ tree, area.tree.makeDirectories (directoryOf (filePath area.root area.extension name)) =
        (.ok (place.downAll (directoryNames name)), tree) ∧ area.tree.Extends tree ∧
      ∀ x, tree.node? x = if x ∈ place.along (directoryNames name) then some .directory
        else area.tree.node? x := by
  obtain ⟨hends, habsolute, hclean⟩ :=
    filePath_spec hsafe h.extension.1 h.extension.2 area.root
  -- each segment of a safe name is one to go down by, so no step is left out
  have hmoving : ((directoryNames name).map PathStep.ofComponent).filter (· ≠ .stay) =
      (directoryNames name).map .down := by
    rw [map_directoryNames hsafe, List.filter_eq_self]
    intro step hstep
    obtain ⟨directory, -, rfl⟩ := List.mem_map.1 hstep
    rfl
  rw [Tree.makeDirectories_directoryOf hends h.pathLimit (hclean h.root),
    Tree.start_congr habsolute, List.map_append, List.filter_append, hmoving,
    Tree.makeFrom_of_follow h.follow h.directory]
  exact Tree.makeFrom_down false (fun n _ => Tree.isTooLong_eq_false h.nameLimit n) hway

theorem accepting_output : output.Accepting accept :=
  ⟨fun _ _ => rfl, fun _ => rfl⟩

/-- **An artifact with a safe name is published**, unless something is in the way of its file. -/
theorem LeadsTo.publish (h : area.LeadsTo place) {artifact : Artifact}
    (hsafe : IsSafeName artifact.name)
    (hway : ∀ x ∈ place.along (directoryNames artifact.name),
      area.tree.node? x = none ∨ area.tree.node? x = some .directory)
    (hfile : area.tree.node? (filePlace area.extension place artifact.name) ≠ some .directory) :
    ∃ tree, output.publish artifact area = (.ok (), { area with tree }) ∧ area.tree.Alike tree ∧
      ∀ x, tree.node? x =
        if x = filePlace area.extension place artifact.name then
          some (.file (Text.bytesOf artifact.content))
        else if x ∈ place.along (directoryNames artifact.name) then some .directory
        else area.tree.node? x := by
  obtain ⟨hends, -, hclean⟩ :=
    filePath_spec hsafe h.extension.1 h.extension.2 area.root
  obtain ⟨made, hmake, hextends, hmade⟩ := h.makeDirectories hsafe hway
  -- the directories are made and the temporary file is in place
  have hopen : output.openStream artifact.name area =
      .ok (freshStream { area with tree := made } (place.downAll (directoryNames artifact.name))
        (filePath area.root area.extension artifact.name)) := by
    change openStream artifact.name area = _
    unfold openStream
    rw [pathFor_of_isSafeName hsafe]
    dsimp only
    rw [hmake]
    rfl
  obtain ⟨tree, halike, hnode, hcommit⟩ :=
    (holding_taken { area with tree := made } (place.downAll (directoryNames artifact.name))
      (filePath area.root area.extension artifact.name)
      (Text.bytesOf artifact.content)).exists_commit
  -- up to there the tree has only grown, so the root still leads to the directory
  have htree : area.tree.Extends tree :=
    ⟨hextends.toAlike.trans halike, fun x node hx => (hnode x).trans (hextends.node x node hx)⟩
  have hleads : LeadsTo { area with tree } place := h.extends htree
  have halong : ∀ x ∈ place.along (directoryNames artifact.name),
      tree.node? x = some .directory := by
    intro x hx
    rw [hnode, hmade, if_pos hx]
  -- no directory that was made has the place of the file
  have htarget : tree.node? (filePlace area.extension place artifact.name) ≠ some .directory := by
    rw [hnode, hmade, if_neg (filePlace_not_mem_along _ _ _ _)]
    exact hfile
  have hreplaceable : tree.replaceable (filePath area.root area.extension artifact.name) =
      .ok (filePlace area.extension place artifact.name) :=
    Tree.replaceable_eq hends (Tree.pathFault?_eq_none hleads.pathLimit (hclean h.root))
      (Tree.isTooLong_eq_false hleads.nameLimit _) (hleads.follow_filePath hsafe halong)
      (node?_downAll hleads.directory halong) htarget
  -- the temporary file takes the place of the file when the stream is committed
  rw [hreplaceable] at hcommit
  refine ⟨_, OutputArea.publish_of_openStream accepting_output hopen hcommit,
    htree.toAlike.trans (Tree.alike_put _ _ _), fun x => ?_⟩
  rw [Tree.node?_put_of_ne htarget, hnode, hmade]

/-- **Every other artifact is refused**, and the area stays as it is. -/
theorem publish_of_not_isSafeName (area : DirectoryArea) {artifact : Artifact}
    (h : ¬ IsSafeName artifact.name) :
    ∃ fault, output.publish artifact area = (.error ⟨artifact.name, fault⟩, area) ∧
      fault.kind = .invalidInput := by
  obtain ⟨fault, hpath, hkind⟩ := pathFor_of_not_isSafeName h area.root area.extension
  refine ⟨fault, OutputArea.publish_of_refused ?_, hkind⟩
  change openStream artifact.name area = _
  unfold openStream
  rw [hpath]

end DirectoryArea

end Stencil
