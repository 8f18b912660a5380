import Stencil.Proofs.Output.Ways
import Stencil.Proofs.Text.Words

/-!
# Where the files of names can be

The path of a name stays where it belongs, whatever the root says and whatever stands there. Names
are joined to the root one by one, and each of them leads one directory down: none is empty, and
none is a dot or two (`LeadsBelow`). So the path is longer than the root, and wherever the root
leads, the path leads to a place below.

No two names get in each other's way. A path can only be the beginning of another if its file is
among the directories of the other or is the same file; a file has a dot in its name and a directory
has none, and different names have different files (`name_eq_of_begins`). That a path begins
another says the same of the places to which they lead, so a tree cannot mix them up either.
-/

namespace Stencil

/-! ### Segments -/

/-- **A segment that may name a file or a directory**: a text on a single level, without white space
around it. -/
structure IsPlain (segment : List Char) : Prop where
  ne_nil : segment ≠ []
  chars : ∀ c ∈ segment, c ≠ '/' ∧ c ≠ '\\' ∧ c ≠ '\x00'
  head : ∀ c ∈ segment.head?, Text.isSpace c = false
  last : ∀ c ∈ segment.getLast?, Text.isSpace c = false

theorem isSafeSegment_iff_isPlain {segment : List Char} :
    isSafeSegment segment = true ↔ IsPlain segment := by
  rw [isSafeSegment_iff]
  constructor
  · rintro ⟨hne, hchars, htrim⟩
    obtain ⟨hhead, hlast⟩ := Text.ends_of_trim_eq_self htrim
    exact ⟨hne, hchars, hhead, hlast⟩
  · intro h
    exact ⟨h.ne_nil, h.chars, Text.trim_eq_self h.head h.last⟩

theorem isSafeName_iff {name : String} :
    IsSafeName name ↔ ∀ segment ∈ name.toList.splitOn '.', IsPlain segment :=
  forall₂_congr fun _ _ => isSafeSegment_iff_isPlain

/-! ### Below the root -/

/-- **A path leads from a root down through names.** -/
structure LeadsBelow (root : String) (names : List String) (path : String) : Prop where
  ne_nil : names ≠ []
  named : ∀ name ∈ names, name ≠ "" ∧ name ≠ "." ∧ name ≠ ".."
  eq_foldl : path = names.foldl joinPath root
  components_eq : components path = rootComponents root ++ names
  /-- It does so in every tree, wherever the root itself leads. -/
  placeOf_eq : ∀ t : Tree, t.placeOf path = (t.placeOf root).downAll names

theorem ne_of_ofComponent {name : String} (h : PathStep.ofComponent name = .down name) :
    name ≠ "" ∧ name ≠ "." ∧ name ≠ ".." := by
  refine ⟨?_, ?_, ?_⟩ <;>
  · rintro rfl
    exact absurd h (by decide)

theorem placeOf_filePath {name extension : String} (hsafe : IsSafeName name)
    (hslash : '/' ∉ extension.toList) (root : String) (t : Tree) :
    t.placeOf (filePath root extension name) =
      (t.placeOf root).downAll (directoryNames name ++ [fileName extension name]) := by
  obtain ⟨hends, habsolute⟩ := endsIn_filePath hsafe hslash root
  have hwalk := @DirectoryArea.walk_filePath { root, extension, tree := t } name hsafe
  unfold Tree.placeOf
  rw [hends.pathSteps_eq, Tree.start_congr habsolute, Location.walk_append, hwalk,
    Location.downAll_concat]
  rfl

/-- **The path of a safe name** leads from the root through the directories of the name to its
file. -/
theorem leadsBelow_filePath {name extension : String} (hsafe : IsSafeName name)
    (hslash : '/' ∉ extension.toList) (root : String) :
    LeadsBelow root (directoryNames name ++ [fileName extension name])
      (filePath root extension name) where
  ne_nil := DirectoryArea.fileNames_ne_nil extension name
  named n hn := by
    -- the names are those of the directories, and that of the file with its extension
    rcases List.mem_append.1 hn with hdirectory | hfile
    · exact ne_of_ofComponent (directoryNames_spec hsafe hdirectory).1
    · rw [List.mem_singleton.1 hfile]
      exact ne_of_ofComponent (ofComponent_fileName hsafe extension)
  eq_foldl := by
    rw [List.foldl_append]
    rfl
  components_eq := by
    rw [(endsIn_filePath hsafe hslash root).1.components_eq, List.append_assoc]
  placeOf_eq := placeOf_filePath hsafe hslash root

/-! ### Names that do not get in each other's way -/

/-- **What leads to one file leads to no other**, and through no other. -/
theorem name_eq_of_begins {extension a b : String}
    (h : directoryNames a ++ [fileName extension a] <+:
      directoryNames b ++ [fileName extension b]) : a = b := by
  rcases List.prefix_concat_iff.1 h with heq | hprefix
  · obtain ⟨hdirectories, hfile⟩ := List.append_inj' heq rfl
    exact name_inj hdirectories (List.singleton_inj.1 hfile)
  · -- the file of one name would be a directory of the other
    have hmem : fileName extension a ∈ directoryNames b :=
      hprefix.mem (List.mem_append_right _ (List.mem_singleton_self _))
    exact absurd (dot_mem_fileName extension a) (dot_not_mem_of_mem_directoryNames hmem)

/-- **Paths of names are safe and apart.** A name has a path exactly if all of its segments are
plain. The path leads strictly below the root, down through the segments in their order, of which
the last one has got the extension. And no two names have the same path, nor is that of one a
directory on the path of another, be it as texts or in a tree. -/
theorem pathFor_contained (root : String) {extension : String}
    (hextension : '/' ∉ extension.toList) :
    (∀ name, (∃ path, pathFor root extension name = .ok path) ↔
      ∀ segment ∈ name.toList.splitOn '.', IsPlain segment) ∧
    (∀ name path, pathFor root extension name = .ok path →
      ∃ directories last,
        name.toList.splitOn '.' = (directories ++ [last]).map String.toList ∧
        LeadsBelow root (directories ++ [last ++ "." ++ extension]) path) ∧
    ∀ a b p q, pathFor root extension a = .ok p → pathFor root extension b = .ok q →
      (p = q → a = b) ∧
      (a ≠ b → ¬ components p <+: components q ∧
        ∀ t : Tree, (t.placeOf p).isAbove (t.placeOf q) = false) := by
  refine ⟨fun name => ?_, fun name path hpath => ?_, fun a b p q hp hq => ?_⟩
  · rw [← isSafeName_iff]
    -- the segments are safe in the sense of the program exactly if they are plain
    constructor
    · rintro ⟨path, hpath⟩
      exact (pathFor_eq_ok_iff.1 hpath).1
    · intro hsafe
      exact ⟨_, pathFor_of_isSafeName hsafe root extension⟩
  · obtain ⟨hsafe, rfl⟩ := pathFor_eq_ok_iff.1 hpath
    -- the last segment names the file, and the others name the directories
    obtain ⟨init, last, hsplit, hdirectories, hfile⟩ := exists_segments name
    have hlast : fileName extension name = String.ofList last ++ "." ++ extension := by
      rw [← String.toList_inj, hfile, String.toList_append, String.toList_append,
        String.toList_ofList, List.append_assoc]
      rfl
    refine ⟨init.map String.ofList, String.ofList last, ?_, ?_⟩
    · rw [hsplit, List.map_append, List.map_map, List.map_singleton, String.toList_ofList]
      congr 1
      exact (List.map_id'' (fun _ => String.toList_ofList) init).symm
    · rw [← hdirectories, ← hlast]
      exact leadsBelow_filePath hsafe hextension root
  · obtain ⟨hsafe, rfl⟩ := pathFor_eq_ok_iff.1 hp
    obtain ⟨hsafe', rfl⟩ := pathFor_eq_ok_iff.1 hq
    have hleads := leadsBelow_filePath hsafe hextension root
    have hleads' := leadsBelow_filePath hsafe' hextension root
    -- equal paths are the case in which one path begins the other with all its components
    have hbegins : components (filePath root extension a) <+:
        components (filePath root extension b) → a = b := by
      intro hprefix
      rw [hleads.components_eq, hleads'.components_eq, List.prefix_append_right_inj] at hprefix
      exact name_eq_of_begins hprefix
    refine ⟨fun heq => hbegins (heq ▸ List.prefix_rfl), fun hne => ⟨mt hbegins hne, fun t => ?_⟩⟩
    rw [hleads.placeOf_eq, hleads'.placeOf_eq, Bool.eq_false_iff]
    exact fun habove => hne (name_eq_of_begins (Location.prefix_of_isAbove habove))

/-- The file of a name is not on the way to that of a longer name, and both are below the root. -/
theorem pathFor_contained_java :
    '/' ∉ "java".toList ∧ (¬ ∃ path, pathFor "../out" "java" "a..B" = .ok path) ∧
      (∃ names, LeadsBelow "../out" names "../out/a/B.java") ∧
      (∃ names, LeadsBelow "../out" names "../out/a/B/C.java") ∧
      ∀ t : Tree, (t.placeOf "../out/a/B.java").isAbove (t.placeOf "../out/a/B/C.java") = false := by
  have hjava : '/' ∉ "java".toList := by decide
  obtain ⟨haccepted, hleads, hapart⟩ := pathFor_contained "../out" hjava
  have hshort : pathFor "../out" "java" "a.B" = .ok "../out/a/B.java" := by decide +kernel
  have hlong : pathFor "../out" "java" "a.B.C" = .ok "../out/a/B/C.java" := by decide +kernel
  refine ⟨hjava, fun hpath => ?_, ?_, ?_, ?_⟩
  · exact ((haccepted _).1 hpath [] (by decide)).ne_nil rfl
  · obtain ⟨_, _, -, hbelow⟩ := hleads _ _ hshort
    exact ⟨_, hbelow⟩
  · obtain ⟨_, _, -, hbelow⟩ := hleads _ _ hlong
    exact ⟨_, hbelow⟩
  · exact ((hapart _ _ _ _ hshort hlong).2 (by decide)).2

end Stencil
