import Stencil.Proofs.Output.Paths

/-!
# The files of artifacts

A safe name has a path below every root (`pathFor_of_isSafeName`), and every other name is refused
(`pathFor_of_not_isSafeName`). The path leads through the directories of the name to its file
(`filePath_spec`). There is a dot in the name of the file and none in those of the directories, so a
file of one name is never a directory of another; and no two names have the same file (`name_inj`).
-/

namespace Stencil

/-- A name whose segments may all name files. -/
def IsSafeName (name : String) : Prop :=
  ∀ segment ∈ name.toList.splitOn '.', isSafeSegment segment = true

instance : DecidablePred IsSafeName := fun name =>
  inferInstanceAs (Decidable (∀ segment ∈ name.toList.splitOn '.', isSafeSegment segment = true))

/-- The directories in which the file of a name is. -/
def directoryNames (name : String) : List String :=
  ((name.toList.splitOn '.').map String.ofList).dropLast

/-- The name of the file of a name. -/
def fileName (extension name : String) : String :=
  ((name.toList.splitOn '.').map String.ofList).getLastD "" ++ "." ++ extension

/-- The path of a name, if it has one. -/
def filePath (root extension name : String) : String :=
  joinPath ((directoryNames name).foldl joinPath root) (fileName extension name)

/-- **A safe name has a path.** -/
theorem pathFor_of_isSafeName {name : String} (h : IsSafeName name) (root extension : String) :
    pathFor root extension name = .ok (filePath root extension name) := by
  have hnone : (name.toList.splitOn '.').find? (!isSafeSegment ·) = none := by
    rw [List.find?_eq_none]
    intro segment hsegment
    rw [h segment hsegment]
    decide
  unfold pathFor safeSegments
  dsimp only
  rw [hnone]
  rfl

/-- **Every other name is refused.** -/
theorem pathFor_of_not_isSafeName {name : String} (h : ¬ IsSafeName name)
    (root extension : String) :
    ∃ fault, pathFor root extension name = .error fault ∧ fault.kind = .invalidInput := by
  have hsome : ((name.toList.splitOn '.').find? (!isSafeSegment ·)).isSome = true := by
    rw [List.find?_isSome]
    unfold IsSafeName at h
    simpa using h
  obtain ⟨bad, hbad⟩ := Option.isSome_iff_exists.1 hsome
  unfold pathFor safeSegments
  dsimp only
  rw [hbad]
  exact ⟨_, rfl, rfl⟩

/-- **A name has a path** exactly if it is a safe one, and then it is that of its file. -/
theorem pathFor_eq_ok_iff {root extension name path : String} :
    pathFor root extension name = .ok path ↔
      IsSafeName name ∧ path = filePath root extension name := by
  by_cases hsafe : IsSafeName name
  · rw [pathFor_of_isSafeName hsafe]
    exact ⟨fun h => ⟨hsafe, (Except.ok.inj h).symm⟩, fun h => congrArg Except.ok h.2.symm⟩
  · obtain ⟨fault, hrefused, -⟩ := pathFor_of_not_isSafeName hsafe root extension
    rw [hrefused]
    exact iff_of_false (fun h => nomatch h) fun h => hsafe h.1

theorem isSafeSegment_iff {segment : List Char} :
    isSafeSegment segment = true ↔ segment ≠ [] ∧
      (∀ c ∈ segment, c ≠ '/' ∧ c ≠ '\\' ∧ c ≠ '\x00') ∧ Text.trim segment = segment := by
  unfold isSafeSegment
  simp only [Bool.and_eq_true, Bool.not_eq_true', List.isEmpty_eq_false_iff, List.all_eq_true,
    bne_iff_ne, beq_iff_eq, and_assoc]

theorem step_of_head {component : String} {c : Char} (h : component.toList.head? = some c)
    (hc : c ≠ '.') : PathStep.ofComponent component = .down component := by
  have hne : ∀ other : String, other.toList.head? ≠ some c → component ≠ other := by
    rintro other hother rfl
    exact hother h
  have hdot : some '.' ≠ some c := fun heq => hc (Option.some.inj heq).symm
  unfold PathStep.ofComponent
  rw [if_neg, if_neg]
  · exact hne ".." hdot
  · rw [not_or]
    exact ⟨hne "" (fun heq => by contradiction), hne "." hdot⟩

/-- A segment of a safe name is something without slashes and null characters, and begins with no
dot. -/
theorem IsSafeName.segment {name : String} (h : IsSafeName name) {segment : List Char}
    (hmem : segment ∈ name.toList.splitOn '.') :
    (∃ c, segment.head? = some c ∧ c ≠ '.') ∧ '/' ∉ segment ∧ '\x00' ∉ segment := by
  obtain ⟨hne, hchars, -⟩ := isSafeSegment_iff.1 (h segment hmem)
  have hdot : '.' ∉ segment := Text.not_mem_of_mem_splitOn hmem
  refine ⟨⟨segment.head hne, List.head?_eq_some_head hne, ?_⟩,
    fun hc => (hchars _ hc).1 rfl, fun hc => (hchars _ hc).2.2 rfl⟩
  rintro heq
  exact hdot (heq ▸ List.head_mem hne)

/-- The last segment of a name is that of its file, and the others are its directories. -/
theorem exists_segments (name : String) :
    ∃ init last, name.toList.splitOn '.' = init ++ [last] ∧
      directoryNames name = init.map String.ofList ∧
      ∀ extension, (fileName extension name).toList = last ++ '.' :: extension.toList := by
  -- there is always a last segment, which may be the only one
  obtain ⟨init, last, hsplit⟩ : ∃ init last, name.toList.splitOn '.' = init ++ [last] :=
    ⟨_, _, (List.dropLast_append_getLast (List.splitOn_ne_nil '.' name.toList)).symm⟩
  refine ⟨init, last, hsplit, ?_, fun extension => ?_⟩
  · unfold directoryNames
    rw [hsplit, List.map_append, List.map_singleton, List.dropLast_concat]
  · unfold fileName
    rw [hsplit, List.map_append, List.map_singleton, List.getLastD_concat, String.toList_append,
      String.toList_append, String.toList_ofList, List.append_assoc]
    rfl

theorem dot_not_mem_of_mem_directoryNames {name directory : String}
    (hmem : directory ∈ directoryNames name) : '.' ∉ directory.toList := by
  obtain ⟨init, last, hsplit, hdirectories, -⟩ := exists_segments name
  rw [hdirectories] at hmem
  obtain ⟨segment, hsegment, rfl⟩ := List.mem_map.1 hmem
  rw [String.toList_ofList]
  exact Text.not_mem_of_mem_splitOn (hsplit ▸ List.mem_append_left _ hsegment)

theorem dot_mem_fileName (extension name : String) : '.' ∈ (fileName extension name).toList := by
  obtain ⟨init, last, -, -, hfile⟩ := exists_segments name
  rw [hfile]
  exact List.mem_append_right _ List.mem_cons_self

/-- **The directories of a safe name** are names without slashes and null characters. -/
theorem directoryNames_spec {name directory : String} (h : IsSafeName name)
    (hmem : directory ∈ directoryNames name) :
    PathStep.ofComponent directory = .down directory ∧ '/' ∉ directory.toList ∧
      '\x00' ∉ directory.toList := by
  obtain ⟨init, last, hsplit, hdirectories, -⟩ := exists_segments name
  rw [hdirectories] at hmem
  obtain ⟨segment, hsegment, rfl⟩ := List.mem_map.1 hmem
  obtain ⟨⟨c, hhead, hc⟩, hrest⟩ := h.segment (hsplit ▸ List.mem_append_left _ hsegment)
  rw [String.toList_ofList]
  refine ⟨step_of_head ?_ hc, hrest⟩
  rwa [String.toList_ofList]

/-- **The file of a safe name** begins as the last segment does, so its name leads down, whatever
the extension is. -/
theorem ofComponent_fileName {name : String} (h : IsSafeName name) (extension : String) :
    PathStep.ofComponent (fileName extension name) = .down (fileName extension name) := by
  obtain ⟨init, last, hsplit, -, hfile⟩ := exists_segments name
  obtain ⟨⟨c, hhead, hc⟩, -⟩ :=
    h.segment (hsplit ▸ List.mem_append_right _ (List.mem_singleton_self last))
  refine step_of_head (c := c) ?_ hc
  rw [hfile, List.head?_append, hhead]
  rfl

/-- In the name of a file there is only what is in the name, a dot, and what is in the extension. -/
theorem not_mem_fileName {name extension : String} {c : Char}
    (hname : ∀ segment ∈ name.toList.splitOn '.', c ∉ segment) (hdot : c ≠ '.')
    (hextension : c ∉ extension.toList) : c ∉ (fileName extension name).toList := by
  obtain ⟨init, last, hsplit, -, hfile⟩ := exists_segments name
  rw [hfile, List.mem_append, List.mem_cons, not_or, not_or]
  exact ⟨hname last (hsplit ▸ List.mem_append_right _ (List.mem_singleton_self last)), hdot,
    hextension⟩

theorem slash_not_mem_fileName {name extension : String} (h : IsSafeName name)
    (hslash : '/' ∉ extension.toList) : '/' ∉ (fileName extension name).toList :=
  not_mem_fileName (fun _ hmem => (h.segment hmem).2.1) (by decide) hslash

theorem null_not_mem_fileName {name extension : String} (h : IsSafeName name)
    (hnull : '\x00' ∉ extension.toList) : '\x00' ∉ (fileName extension name).toList :=
  not_mem_fileName (fun _ hmem => (h.segment hmem).2.2) (by decide) hnull

/-- **Different names have different files.** -/
theorem name_inj {a b extension : String} (hdirectories : directoryNames a = directoryNames b)
    (hfile : fileName extension a = fileName extension b) : a = b := by
  obtain ⟨init, last, hsplit, hinit, hlast⟩ := exists_segments a
  obtain ⟨init', last', hsplit', hinit', hlast'⟩ := exists_segments b
  -- the extension is the same, so the two names have the same segments
  have hinits : init = init' := by
    rw [hinit, hinit'] at hdirectories
    exact List.map_injective_iff.2 (fun _ _ => String.ofList_inj.1) hdirectories
  have hlasts : last = last' := by
    have hchars := congrArg String.toList hfile
    rw [hlast, hlast'] at hchars
    exact List.append_cancel_right hchars
  -- a name is its segments with dots between them
  have hchars : a.toList = b.toList := by
    rw [← @List.intercalate_splitOn _ a.toList _ _ '.', hsplit, hinits, hlasts, ← hsplit',
      List.intercalate_splitOn]
  exact String.toList_inj.1 hchars

/-- **The path of a safe name** begins where the root does and ends in the file of the name, behind
the components of the root and the directories of the name. -/
theorem endsIn_filePath {name extension : String} (h : IsSafeName name)
    (hslash : '/' ∉ extension.toList) (root : String) :
    EndsIn (filePath root extension name) (rootComponents root ++ directoryNames name)
        (fileName extension name) ∧
      isAbsolute (filePath root extension name) = isAbsolute root := by
  have hfile := slash_not_mem_fileName h hslash
  -- the directories are added to the path one at a time, and none has an empty name
  have hcomponents : rootComponents ((directoryNames name).foldl joinPath root) =
      rootComponents root ++ directoryNames name := by
    refine rootComponents_foldl root fun directory hmem => ?_
    obtain ⟨hdown, hdirectory, -⟩ := directoryNames_spec h hmem
    refine ⟨hdirectory, ?_⟩
    rintro rfl
    exact absurd hdown (by decide)
  obtain ⟨habsolute, -⟩ := foldl_joinPath root fun directory hmem => (directoryNames_spec h hmem).2
  constructor
  · rw [← hcomponents]
    exact endsIn_joinPath _ hfile (ofComponent_fileName h extension)
  · rw [← habsolute]
    exact isAbsolute_joinPath hfile

/-- There is no null character in it if there is none in the root and the extension. -/
theorem filePath_spec {name extension : String} (h : IsSafeName name)
    (hslash : '/' ∉ extension.toList) (hnull : '\x00' ∉ extension.toList) (root : String) :
    EndsIn (filePath root extension name) (rootComponents root ++ directoryNames name)
        (fileName extension name) ∧
      isAbsolute (filePath root extension name) = isAbsolute root ∧
      ('\x00' ∉ root.toList → '\x00' ∉ (filePath root extension name).toList) := by
  obtain ⟨hends, habsolute⟩ := endsIn_filePath h hslash root
  refine ⟨hends, habsolute, fun hrootclean hmem => ?_⟩
  obtain ⟨-, hroot⟩ := foldl_joinPath root fun directory hmem => (directoryNames_spec h hmem).2
  -- a character of the path is one of the root, of the names, or a slash between them
  rcases mem_joinPath hmem with hmem | hmem | hmem
  · exact hroot hrootclean hmem
  · exact absurd hmem (by decide)
  · exact null_not_mem_fileName h hnull hmem

end Stencil
