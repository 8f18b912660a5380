import Mathlib.Data.List.Dedup
import Stencil.Proofs.Output.AllOrNothing
import Stencil.Proofs.Output.Containment

/-!
# Which files a publication adds

Whether an artifact can be published below a root depends on much that stands in the tree, on the
limits of names and paths, and on what the root says. Which file there is afterwards, if it was
published, does not: its path leads to the place that its steps say, whatever was there and whatever
had to be made. So a publication that succeeds adds just the file of its name below
`DirectoryArea.place`, or puts another text into it (`DirectoryArea.isFile_publish`). The directories
are of no account, and the root need not be there before.
-/

namespace Stencil

/-! ### Counting without repetitions -/

section

variable {α β : Type} [DecidableEq α] [DecidableEq β]

/-- A list without repetitions is as long as any list with the same members is without them. -/
theorem length_eq_length_dedup {l l' : List α} (hnodup : l.Nodup) (hmem : ∀ a, a ∈ l ↔ a ∈ l') :
    l.length = l'.dedup.length := by
  apply List.Perm.length_eq
  rw [List.perm_ext_iff_of_nodup hnodup (List.nodup_dedup l')]
  intro a
  rw [List.mem_dedup]
  exact hmem a

theorem length_dedup_map {f : α → β} (hf : Function.Injective f) (l : List α) :
    (l.map f).dedup.length = l.dedup.length := by
  rw [List.dedup_map_of_injective hf, List.length_map]

end

namespace Tree

variable {t : Tree} {place x : Location}

/-! ### Files -/

/-- Whether there is a file at a place. -/
def isFile (t : Tree) (x : Location) : Bool :=
  match t.node? x with
  | some (.file _) => true
  | _ => false

theorem isFile_congr {t' : Tree} (h : t'.node? x = t.node? x) : t'.isFile x = t.isFile x := by
  unfold isFile
  rw [h]

theorem isFile_iff : t.isFile x = true ↔ ∃ content, t.node? x = some (.file content) := by
  unfold isFile
  split
  · next content hfile => exact iff_of_true rfl ⟨content, hfile⟩
  · next hnone => exact iff_of_false Bool.false_ne_true fun ⟨content, hfile⟩ => hnone content hfile

/-- New directories are no files. -/
theorem WithFile.isFile {t' : Tree} {among : Location → Prop} {path : String}
    {content : List UInt8} (h : WithFile t among path content place t') (x : Location) :
    t'.isFile x = (x == place || t.isFile x) := by
  by_cases hx : x = place
  · rw [hx, beq_self_eq_true, Bool.true_or, isFile_iff]
    exact ⟨content, h.file⟩
  · rw [beq_false_of_ne hx, Bool.false_or]
    rcases h.node x hx with hsame | ⟨hnone, hdirectory, -⟩
    · exact isFile_congr hsame
    · unfold Tree.isFile
      rw [hnone, hdirectory]

/-- The places of the files at a place or below it. -/
def filesBelow (t : Tree) (place : Location) : List Location :=
  (t.nodes.map (·.1)).dedup.filter fun x => place.isAbove x && t.isFile x

/-- What stands somewhere is among what stands in the tree, unless it is above home. -/
theorem mem_nodes_of_isFile (h : t.isFile x = true) : x ∈ t.nodes.map (·.1) := by
  obtain ⟨content, hfile⟩ := isFile_iff.1 h
  unfold node? at hfile
  split at hfile
  · exact nomatch hfile
  · -- a place that is not listed is found nowhere
    by_contra hnot
    have hnone : t.nodes.lookup x = none := by
      rw [List.lookup_eq_none_iff]
      intro entry hentry
      rw [bne_iff_ne]
      rintro rfl
      exact hnot (List.mem_map_of_mem hentry)
    rw [hnone] at hfile
    exact nomatch hfile

theorem mem_filesBelow :
    x ∈ t.filesBelow place ↔ place.isAbove x = true ∧ t.isFile x = true := by
  unfold filesBelow
  rw [List.mem_filter, List.mem_dedup, Bool.and_eq_true]
  exact ⟨And.right, fun h => ⟨mem_nodes_of_isFile h.2, h⟩⟩

theorem nodup_filesBelow (t : Tree) (place : Location) : (t.filesBelow place).Nodup :=
  (List.nodup_dedup _).filter _

end Tree

namespace DirectoryArea

variable {area : DirectoryArea}

/-- **A publication that succeeds** adds the file of its name to the tree: any other place has a
file exactly if it had one before. -/
theorem isFile_publish {artifact : Artifact} {next : DirectoryArea}
    (hextension : '/' ∉ area.extension.toList)
    (h : output.publish artifact area = (.ok (), next)) :
    ∃ tree, next = { area with tree } ∧ area.tree.Alike tree ∧
      ∀ x, tree.isFile x =
        (x == filePlace area.extension area.place artifact.name || area.tree.isFile x) := by
  -- what a publication can do is known, and only one of its outcomes is a success
  have houtcome := isDisk_output.outcome area artifact
  rw [h] at houtcome
  cases houtcome with
  | @written path place tree hpath hfile =>
    obtain ⟨hsafe, rfl⟩ := pathFor_eq_ok_iff.1 hpath
    -- the path of the name ends at the place of its file
    have hplace : place = filePlace area.extension area.place artifact.name := by
      rw [Tree.eq_placeOf_of_locate hfile.located, Tree.placeOf_congr hfile.home,
        placeOf_filePath hsafe hextension, filePlace_eq]
      rfl
    refine ⟨tree, rfl, hfile.toAlike, fun x => ?_⟩
    rw [← hplace]
    exact hfile.isFile x

/-- The file of a name is below the directory from which the name leads. -/
theorem isAbove_filePlace (extension : String) (place : Location) (name : String) :
    place.isAbove (filePlace extension place name) = true := by
  rw [filePlace_eq]
  exact Location.isAbove_iff.2 ⟨_, rfl⟩

/-- **A directory with just the files of some names** has as many files as there are names. -/
theorem length_filesBelow {extension : String} {place : Location} {tree : Tree}
    {names : List String}
    (h : ∀ x, place.isAbove x = true →
      (tree.isFile x = true ↔ ∃ name ∈ names, x = filePlace extension place name)) :
    (tree.filesBelow place).length = names.dedup.length := by
  -- the files below the place are those of the names, each of which may be given repeatedly
  have hmem : ∀ x, x ∈ tree.filesBelow place ↔ x ∈ names.map (filePlace extension place) := by
    intro x
    rw [Tree.mem_filesBelow, List.mem_map]
    constructor
    · rintro ⟨habove, hfile⟩
      obtain ⟨name, hname, rfl⟩ := (h x habove).1 hfile
      exact ⟨name, hname, rfl⟩
    · rintro ⟨name, hname, rfl⟩
      have habove := isAbove_filePlace extension place name
      exact ⟨habove, (h _ habove).2 ⟨name, hname, rfl⟩⟩
  calc (tree.filesBelow place).length
    _ = (names.map (filePlace extension place)).dedup.length :=
      length_eq_length_dedup (tree.nodup_filesBelow place) hmem
    _ = names.dedup.length := length_dedup_map (fun _ _ => filePlace_inj) names

end DirectoryArea

end Stencil
