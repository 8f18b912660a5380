import Stencil.Proofs.Output.Directory

/-!
# A directory and a memory that mirror each other

A tree `Mirrors` an area in memory below a directory if its files there are those of the safe names
in memory, in the places of these names and with the same texts. Whatever is published in both, they
mirror each other afterwards (`Mirrors.publish`): a safe name gets its file, and any other name is
refused and leaves no trace, though the memory takes it.

Nothing is ever in the way. A file of the tree is that of a name, so its own name has a dot in it,
and a directory has no dot in its name, since a name is cut at its dots.
-/

namespace Stencil

namespace DirectoryArea

/-- **An area below an empty directory**, without limits. -/
structure IsFresh (area : DirectoryArea) (place : Location) : Prop extends
    LeadsTo area place where
  empty : ∀ x, place.isAbove x = true → x ≠ place → area.tree.node? x = none

/-- **A tree that mirrors an area in memory**, below the directory of a fresh area from which the
tree has come. -/
structure Mirrors (fresh : DirectoryArea) (place : Location) (memory : MemoryArea)
    (tree : Tree) : Prop where
  extends_fresh : fresh.tree.Extends tree
  /-- A file stands in the place of a safe name, with the text that memory has under the name. -/
  file : ∀ names, names ≠ [] → ∀ bytes,
    tree.node? (place.downAll names) = some (.file bytes) ↔
      ∃ name content, IsSafeName name ∧ memory.get? name = some content ∧
        place.downAll names = filePlace fresh.extension place name ∧ bytes = Text.bytesOf content
  directory : ∀ names, names ≠ [] → tree.node? (place.downAll names) = some .directory →
    ∀ n ∈ names, '.' ∉ n.toList
  /-- The directories of a safe name are there. -/
  along : ∀ name content, IsSafeName name → memory.get? name = some content →
    ∀ x ∈ place.along (directoryNames name), tree.node? x = some .directory

variable {fresh : DirectoryArea} {place : Location} {memory : MemoryArea} {tree : Tree}

/-- A place to which names lead down is below, and is another place. -/
theorem isAbove_downAll {names : List String} (hne : names ≠ []) :
    place.isAbove (place.downAll names) = true ∧ place.downAll names ≠ place := by
  refine ⟨Location.isAbove_iff.2 ⟨names, rfl⟩, fun h => hne ?_⟩
  exact Location.downAll_inj.1 (h.trans (Location.downAll_nil place).symm)

/-- A directory is empty if neither home nor anything that stands in the tree is below it. -/
theorem node?_eq_none_of_empty {tree : Tree}
    (hhome : place.isAbove tree.home = true → tree.home = place)
    (hnodes : ∀ entry ∈ tree.nodes, place.isAbove entry.1 = true → entry.1 = place) {x : Location}
    (habove : place.isAbove x = true) (hne : x ≠ place) : tree.node? x = none := by
  unfold Tree.node?
  split
  · next hx =>
    -- a place above home would be between the directory and home
    obtain ⟨names, rfl⟩ := Location.isAbove_iff.1 habove
    obtain ⟨more, hmore⟩ := Location.isAbove_iff.1 hx
    have hbelow : tree.home = place.downAll (names ++ more) := by
      rw [hmore]
      exact List.foldl_append.symm
    have hplace := hhome (Location.isAbove_iff.2 ⟨_, hbelow⟩)
    rw [hbelow] at hplace
    have hnil := Location.downAll_inj.1 (hplace.trans (Location.downAll_nil place).symm)
    rw [(List.append_eq_nil_iff.1 hnil).1] at hne
    exact absurd rfl hne
  · rw [List.lookup_eq_none_iff]
    intro entry hentry
    rw [bne_iff_ne]
    rintro rfl
    exact hne (hnodes entry hentry habove)

theorem IsFresh.node?_downAll (h : fresh.IsFresh place) {names : List String} (hne : names ≠ []) :
    fresh.tree.node? (place.downAll names) = none :=
  h.empty _ (isAbove_downAll hne).1 (isAbove_downAll hne).2

theorem IsFresh.mirrors (h : fresh.IsFresh place) : fresh.Mirrors place {} fresh.tree where
  extends_fresh := .refl _
  file names hne bytes := by
    rw [h.node?_downAll hne]
    refine iff_of_false (fun hfile => nomatch hfile) ?_
    rintro ⟨name, content, -, hcontent, -⟩
    exact nomatch hcontent
  directory names hne hdirectory := by
    rw [h.node?_downAll hne] at hdirectory
    contradiction
  along name content _ hcontent := nomatch hcontent

namespace Mirrors

theorem leadsTo (h : fresh.Mirrors place memory tree) (hfresh : fresh.IsFresh place) :
    LeadsTo { fresh with tree } place :=
  hfresh.toLeadsTo.extends h.extends_fresh

/-- Where two memories agree on the names of a place, the same files belong there. -/
theorem exists_file_congr {extension : String} {before after : MemoryArea} {x : Location}
    {bytes : List UInt8}
    (hget : ∀ name, IsSafeName name → x = filePlace extension place name →
      after.get? name = before.get? name) :
    (∃ name content, IsSafeName name ∧ before.get? name = some content ∧
        x = filePlace extension place name ∧ bytes = Text.bytesOf content) ↔
      ∃ name content, IsSafeName name ∧ after.get? name = some content ∧
        x = filePlace extension place name ∧ bytes = Text.bytesOf content := by
  -- the two memories have the same text under the only name whose file is here
  refine exists_congr fun name => exists_congr fun content => and_congr_right fun hsafe => ?_
  constructor
  · rintro ⟨htext, hx, hbytes⟩
    exact ⟨(hget name hsafe hx).trans htext, hx, hbytes⟩
  · rintro ⟨htext, hx, hbytes⟩
    exact ⟨(hget name hsafe hx).symm.trans htext, hx, hbytes⟩

/-- No file is in the way of the directories of a name. -/
theorem way (h : fresh.Mirrors place memory tree) (name : String) :
    ∀ x ∈ place.along (directoryNames name),
      tree.node? x = none ∨ tree.node? x = some .directory := by
  intro x hx
  cases hnode : tree.node? x with
  | none => exact Or.inl rfl
  | some node =>
    cases node with
    | directory => exact Or.inr rfl
    | file bytes =>
      obtain ⟨front, hne, -, rfl⟩ := Location.mem_along.1 hx
      -- a file here would be that of a name
      obtain ⟨other, -, -, -, hplace, -⟩ := (h.file front hne bytes).1 hnode
      rw [hplace] at hx
      exact absurd hx (filePlace_not_mem_along _ _ _ _)

/-- No directory is in the way of the file of a name. -/
theorem filePlace_ne_directory (h : fresh.Mirrors place memory tree) (name : String) :
    tree.node? (filePlace fresh.extension place name) ≠ some .directory := by
  intro hdirectory
  rw [filePlace_eq] at hdirectory
  refine h.directory _ (fileNames_ne_nil _ _) hdirectory (fileName fresh.extension name) ?_
    (dot_mem_fileName _ _)
  exact List.mem_append_right _ (List.mem_singleton_self _)

theorem put_of_not_isSafeName (h : fresh.Mirrors place memory tree) {name : String}
    (hbad : ¬ IsSafeName name) (content : String) :
    fresh.Mirrors place (memory.put name content) tree := by
  -- the name that is put is not safe, so no file is there for it
  have hother : ∀ other, IsSafeName other →
      (memory.put name content).get? other = memory.get? other := by
    intro other hsafe
    rw [MemoryArea.get?_put, if_neg]
    rintro rfl
    exact hbad hsafe
  refine ⟨h.extends_fresh, fun names hne bytes => ?_, h.directory, ?_⟩
  · rw [h.file names hne]
    exact exists_file_congr fun other hsafe _ => hother other hsafe
  · intro other text hsafe htext
    rw [hother other hsafe] at htext
    exact h.along other text hsafe htext

theorem put_of_isSafeName (h : fresh.Mirrors place memory tree) (hfresh : fresh.IsFresh place)
    {name : String} (hsafe : IsSafeName name) {content : String} {tree' : Tree}
    (halike : tree.Alike tree')
    (hnode : ∀ x, tree'.node? x =
      if x = filePlace fresh.extension place name then some (.file (Text.bytesOf content))
      else if x ∈ place.along (directoryNames name) then some .directory else tree.node? x) :
    fresh.Mirrors place (memory.put name content) tree' where
  extends_fresh := by
    refine ⟨h.extends_fresh.toAlike.trans halike, fun x node hx => ?_⟩
    -- what was there in the beginning is not below the directory
    have hbelow : ∀ names, names ≠ [] → x ≠ place.downAll names := by
      rintro names hne rfl
      rw [hfresh.node?_downAll hne] at hx
      contradiction
    rw [hnode, if_neg, if_neg, h.extends_fresh.node x node hx]
    · rw [Location.mem_along]
      rintro ⟨front, hne, -, hplace⟩
      exact hbelow front hne hplace
    · rw [filePlace_eq]
      exact hbelow _ (fileNames_ne_nil _ _)
  file names hne bytes := by
    rw [hnode]
    split
    · next hplace =>
      -- the place of the new file, which no other name has
      constructor
      · intro hfile
        cases hfile
        exact ⟨name, content, hsafe, by rw [MemoryArea.get?_put, if_pos rfl], hplace, rfl⟩
      · rintro ⟨other, text, -, htext, hother, rfl⟩
        obtain rfl : name = other := filePlace_inj (hplace.symm.trans hother)
        rw [MemoryArea.get?_put, if_pos rfl] at htext
        rw [Option.some.inj htext]
    split
    · next halong =>
      -- a directory that was made
      refine iff_of_false (fun hfile => nomatch hfile) ?_
      rintro ⟨other, text, -, -, hother, -⟩
      rw [hother] at halong
      exact filePlace_not_mem_along _ _ _ _ halong
    · next hplace _ =>
      -- a name whose file is here is not the new one
      rw [h.file names hne]
      refine exists_file_congr fun other _ hother => ?_
      rw [MemoryArea.get?_put, if_neg]
      rintro rfl
      exact hplace hother
  directory names hne hdirectory := by
    rw [hnode] at hdirectory
    split at hdirectory
    · exact nomatch hdirectory
    split at hdirectory
    · next halong =>
      -- the names of the directories are the segments of the name, which have no dots
      obtain ⟨front, -, hfront, hplace⟩ := Location.mem_along.1 halong
      rw [Location.downAll_inj.1 hplace]
      exact fun n hn => dot_not_mem_of_mem_directoryNames (hfront.mem hn)
    · exact h.directory names hne hdirectory
  along other text hsafe' htext x hx := by
    rw [hnode, if_neg]
    · split
      · rfl
      · next hnew =>
        have hne : other ≠ name := by
          rintro rfl
          exact hnew hx
        rw [MemoryArea.get?_put, if_neg hne] at htext
        exact h.along other text hsafe' htext x hx
    · rintro rfl
      exact filePlace_not_mem_along _ _ _ _ hx

/-- **What is published in both** keeps them mirrors of each other: a safe name gets its file, and
every other name is refused by the directory alone. -/
theorem publish (h : fresh.Mirrors place memory tree) (hfresh : fresh.IsFresh place)
    (artifact : Artifact) :
    ∃ result tree', output.publish artifact { fresh with tree } =
        (result, { fresh with tree := tree' }) ∧
      fresh.Mirrors place (memory.put artifact.name artifact.content) tree' ∧
      ((IsSafeName artifact.name ∧ result = .ok ()) ∨
        (¬ IsSafeName artifact.name ∧ ∃ fault : Fault, fault.kind = .invalidInput ∧
          result = .error ⟨artifact.name, fault⟩)) := by
  -- an unsafe name is refused before anything is made
  by_cases hsafe : IsSafeName artifact.name
  · obtain ⟨tree', hpublish, halike, hnode⟩ := (h.leadsTo hfresh).publish hsafe
      (h.way artifact.name) (h.filePlace_ne_directory artifact.name)
    exact ⟨_, tree', hpublish, h.put_of_isSafeName hfresh hsafe halike hnode, Or.inl ⟨hsafe, rfl⟩⟩
  · obtain ⟨fault, hpublish, hkind⟩ := publish_of_not_isSafeName { fresh with tree } hsafe
    exact ⟨_, tree, hpublish, h.put_of_not_isSafeName hsafe _, Or.inr ⟨hsafe, fault, hkind, rfl⟩⟩

/-! ### The files of a mirror -/

/-- The file of a safe name is read at its path. -/
theorem readFile_eq (h : fresh.Mirrors place memory tree) (hfresh : fresh.IsFresh place)
    {name content : String} (hsafe : IsSafeName name) (hget : memory.get? name = some content) :
    tree.locate (filePath fresh.root fresh.extension name) =
        .ok (filePlace fresh.extension place name) ∧
      tree.readFile (filePath fresh.root fresh.extension name) =
        .ok (Text.bytesOf content) := by
  have hleads := h.leadsTo hfresh
  have halong := h.along name content hsafe hget
  obtain ⟨hends, -, hclean⟩ :=
    filePath_spec hsafe hleads.extension.1 hleads.extension.2 fresh.root
  -- the memory has a text under the name, so its file is in the tree
  have hfile : tree.node? (filePlace fresh.extension place name) =
      some (.file (Text.bytesOf content)) := by
    rw [filePlace_eq]
    refine (h.file _ (fileNames_ne_nil _ _) _).2 ⟨name, content, hsafe, hget, ?_, rfl⟩
    exact (filePlace_eq _ _ _).symm
  exact Tree.readFile_eq hends (Tree.pathFault?_eq_none hleads.pathLimit (hclean hleads.root))
    (Tree.isTooLong_eq_false hleads.nameLimit _)
    (hleads.follow_filePath hsafe halong) (node?_downAll hleads.directory halong) hfile

end Mirrors

end DirectoryArea

end Stencil
