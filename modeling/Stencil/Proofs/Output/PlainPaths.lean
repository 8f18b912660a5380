import Stencil.Proofs.Output.Files

/-!
# Paths that lead down

A plain path never leads up, and no dot stands at its end. So it is told by the names in it
(`pathNames`): it leads down from where it starts, through one place for each name
(`Tree.placeOf_eq`).

In a tree in which everything stands in a directory (`Tree.IsClosed`), what is done at a plain path
is told by what stands at these places and by the lengths of the names and the path (`Tree.Takes`):
whether something has a name in the directory there (`Tree.isThere_joinPath_iff`), whether a file
may be written there (`Tree.writable_joinPath`), and that directories are made if no file is in the
way (`Tree.exists_makeDirectories`), and none if one is (`Tree.makeDirectories_of_isFile`).
-/

namespace Stencil

/-! ### The names in a path -/

/-- The name to which a step leads down, if it does. -/
def PathStep.name? : PathStep → Option String
  | down name => some name
  | _ => none

/-- The names to which steps lead down. -/
def stepNames (steps : List PathStep) : List String :=
  steps.filterMap PathStep.name?

/-- The names in a path. -/
def pathNames (path : String) : List String :=
  stepNames (pathSteps path)

theorem stepNames_append (steps rest : List PathStep) :
    stepNames (steps ++ rest) = stepNames steps ++ stepNames rest :=
  List.filterMap_append

/-- Steps that never lead up lead down, if they lead anywhere. -/
theorem filter_eq_map_stepNames {steps : List PathStep} (h : .up ∉ steps) :
    steps.filter (· ≠ .stay) = (stepNames steps).map .down := by
  induction steps with
  | nil => rfl
  | cons step rest ih =>
    have hrest := ih fun hmem => h (List.mem_cons_of_mem _ hmem)
    cases step with
    | stay => exact hrest
    | up => exact absurd List.mem_cons_self h
    | down name => exact congrArg (PathStep.down name :: ·) hrest

/-- **A plain path** never leads up, no dot stands at its end, and it has no null character. -/
structure IsPlainPath (path : String) : Prop where
  level : .up ∉ pathSteps path
  noDot : endsInDot path = false
  noNull : '\x00' ∉ path.toList

/-- A path without dots and double dots is plain. -/
theorem isPlainPath_of_components {path : String} (hnull : '\x00' ∉ path.toList)
    (h : ∀ component ∈ components path, component ≠ "." ∧ component ≠ "..") : IsPlainPath path where
  -- the only component that leads up is the one that is excluded
  level hmem := by
    obtain ⟨component, hcomponent, hup⟩ := List.mem_map.1 hmem
    unfold PathStep.ofComponent at hup
    rw [if_neg (h component hcomponent).2] at hup
    split at hup <;> contradiction
  noDot := by
    unfold endsInDot splitEnd
    split
    · next before hsplit =>
      -- the last component that is not empty would be a dot
      exfalso
      split at hsplit
      · exact absurd (Prod.mk.inj hsplit).1 (List.cons_ne_nil _ _).symm
      · next last front hdrop =>
        have hmem : last ∈ components path := by
          rw [← List.mem_reverse]
          refine (List.dropWhile_suffix (· = "")).mem ?_
          rw [hdrop]
          exact List.mem_cons_self
        exact (h last hmem).1 (Prod.mk.inj hsplit).2
    · rfl
  noNull := hnull

/-- **The name of an entry** of a directory: a step down is made to it. -/
structure IsEntryName (name : String) : Prop where
  noSlash : '/' ∉ name.toList
  step : PathStep.ofComponent name = .down name

section

variable {path name : String}

theorem IsPlainPath.movingSteps_eq (h : IsPlainPath path) :
    movingSteps path = (pathNames path).map .down :=
  filter_eq_map_stepNames h.level

theorem stepNames_rootComponents (path : String) :
    stepNames ((rootComponents path).map .ofComponent) = pathNames path := by
  unfold pathNames
  rcases pathSteps_eq_or path with heq | heq <;> rw [heq]
  -- the last step stays where it is, and has no name
  rw [stepNames_append]
  exact (List.append_nil _).symm

theorem IsPlainPath.level_rootComponents (h : IsPlainPath path) :
    .up ∉ (rootComponents path).map PathStep.ofComponent := by
  have hlevel := h.level
  rcases pathSteps_eq_or path with heq | heq <;> rw [heq] at hlevel
  · exact hlevel
  · exact fun hmem => hlevel (List.mem_append_left _ hmem)

theorem IsEntryName.endsIn (h : IsEntryName name) (path : String) :
    EndsIn (joinPath path name) (rootComponents path) name :=
  endsIn_joinPath path h.noSlash h.step

theorem IsEntryName.pathSteps_eq (h : IsEntryName name) (path : String) :
    pathSteps (joinPath path name) =
      (rootComponents path).map .ofComponent ++ [.down name] :=
  (h.endsIn path).pathSteps_eq

theorem pathNames_joinPath (path : String) (h : IsEntryName name) :
    pathNames (joinPath path name) = pathNames path ++ [name] := by
  unfold pathNames
  rw [h.pathSteps_eq, stepNames_append, stepNames_rootComponents]
  rfl

/-- A path begins those of the entries of its directory. -/
theorem exists_joinPath_eq (path : String) (h : IsEntryName name) :
    ∃ more, joinPath path name = path ++ more := by
  have hhead : name.toList.head? ≠ some '/' :=
    fun hslash => h.noSlash (List.mem_of_mem_head? hslash)
  unfold joinPath
  rw [if_neg hhead]
  split
  · exact ⟨name, rfl⟩
  · exact ⟨"/" ++ name, String.append_assoc⟩

end

namespace Location

variable {place x : Location}

theorem walk_eq_downAll {steps : List PathStep} (h : .up ∉ steps) :
    place.walk steps = place.downAll (stepNames steps) := by
  rw [← walk_filter, filter_eq_map_stepNames h, walk_down]

/-- Steps that never lead up pass the places along their names. -/
theorem Passes.mem_along {steps : List PathStep} (h : place.Passes steps x) (hlevel : .up ∉ steps) :
    x = place ∨ x ∈ place.along (stepNames steps) := by
  obtain ⟨front, hfront, rfl⟩ := h
  rw [walk_eq_downAll fun hmem => hlevel (hfront.mem hmem)]
  by_cases hnone : stepNames front = []
  · rw [hnone]
    exact Or.inl rfl
  · exact Or.inr (Location.mem_along.2 ⟨_, hnone, hfront.filterMap _, rfl⟩)

end Location

namespace Tree

variable {t t' : Tree} {path name : String} {place x : Location}

/-! ### Closed trees -/

/-- A path starts in a directory. -/
theorem node?_start (t : Tree) (path : String) : t.node? (t.start path) = some .directory := by
  unfold start
  split
  · -- all names lead down from the root
    have habove : Location.root.isAbove t.home = true := by
      refine Location.isAbove_iff.2 ⟨t.home.names.reverse, Location.ext_names ?_⟩
      rw [Location.names_downAll, List.reverse_reverse, Location.names_root, List.append_nil]
    unfold node?
    rw [if_pos habove]
  · exact node?_home t

/-- **A tree is closed** if everything in it stands in a directory. -/
def IsClosed (t : Tree) : Prop :=
  ∀ place name, t.node? (place.down name) ≠ none → t.node? place = some .directory

/-- Above home there are directories anyway. -/
theorem isClosed_of_nodes (h : ∀ entry ∈ t.nodes, t.node? entry.1.up = some .directory) :
    t.IsClosed := by
  intro place name hthere
  have hnode : t.node? (place.down name) = if (place.down name).isAbove t.home then some .directory
      else t.nodes.lookup (place.down name) := rfl
  split at hnode
  · next habove =>
    -- above home are directories only, and home is below the place as well
    obtain ⟨names, hhome⟩ := Location.isAbove_iff.1 habove
    have hplace : place.isAbove t.home = true := Location.isAbove_iff.2 ⟨name :: names, hhome⟩
    unfold node?
    rw [if_pos hplace]
  · -- any other place is listed, and so is the one above it
    rw [hnode] at hthere
    obtain ⟨node, hlookup⟩ := Option.ne_none_iff_exists'.1 hthere
    obtain ⟨before, after, hnodes, -⟩ := List.lookup_eq_some_iff.1 hlookup
    have hmem : (place.down name, node) ∈ t.nodes := by
      rw [hnodes]
      exact List.mem_append_right _ List.mem_cons_self
    have hup := h _ hmem
    rwa [Location.up_down] at hup

namespace IsClosed

theorem directory_of_downAll (h : t.IsClosed) {names : List String} (hne : names ≠ [])
    (hthere : t.node? (x.downAll names) ≠ none) : t.node? x = some .directory := by
  induction names generalizing x with
  | nil => exact absurd rfl hne
  | cons name rest ih =>
    by_cases hrest : rest = []
    · rw [hrest] at hthere
      exact h x name hthere
    · refine h x name ?_
      rw [ih hrest hthere]
      exact Option.some_ne_none _

/-- **What stands at the end of names** stands in a directory, and so does that. -/
theorem directory_of_along (h : t.IsClosed) {names : List String}
    (hthere : t.node? ((place.downAll names).down name) ≠ none) :
    ∀ x ∈ place.along names, t.node? x = some .directory := by
  intro x hx
  obtain ⟨front, -, ⟨more, rfl⟩, rfl⟩ := Location.mem_along.1 hx
  have hne : more ++ [name] ≠ [] := List.append_ne_nil_of_right_ne_nil more (List.cons_ne_nil _ _)
  refine h.directory_of_downAll hne ?_
  rw [Location.downAll_concat]
  unfold Location.downAll at hthere ⊢
  rwa [List.foldl_append] at hthere

end IsClosed

/-! ### Paths that are short enough -/

/-- **A tree takes a path** if neither the path nor a name in it is too long. -/
structure Takes (t : Tree) (path : String) : Prop where
  fault : t.pathFault? path = none
  short : ∀ name ∈ pathNames path, t.isTooLong name = false

theorem Takes.congr (h : Alike t t') (htakes : t.Takes path) : t'.Takes path where
  fault := by
    have hfault := htakes.fault
    unfold pathFault? at hfault ⊢
    rwa [h.pathLimit]
  short name hname := (h.isTooLong_eq name).trans (htakes.short name hname)

/-- The name of an entry ends its path. -/
theorem Takes.short_entry (htakes : t.Takes (joinPath path name)) (hname : IsEntryName name) :
    t.isTooLong name = false := by
  refine htakes.short name ?_
  rw [pathNames_joinPath path hname]
  exact List.mem_append_right _ (List.mem_singleton_self name)

/-- The path of a directory is shorter than those of its entries. -/
theorem Takes.of_joinPath (htakes : t.Takes (joinPath path name)) (hname : IsEntryName name) :
    t.Takes path where
  fault := by
    -- the path of the entry is longer, so what refuses the path refuses that of the entry
    obtain ⟨more, hjoin⟩ := exists_joinPath_eq path hname
    have hfault := htakes.fault
    rw [hjoin] at hfault
    unfold pathFault? at hfault ⊢
    simp only [List.contains_iff_mem, String.toList_append, List.mem_append,
      String.utf8ByteSize_append] at hfault ⊢
    split at hfault
    · contradiction
    next hnull =>
    split at hfault
    · contradiction
    next hlong =>
    rw [if_neg fun hmem => hnull (Or.inl hmem), if_neg]
    intro htoo
    refine hlong ?_
    cases hlimit : t.pathLimit with
    | none =>
      rw [hlimit] at htoo
      contradiction
    | some limit =>
      rw [hlimit] at htoo
      simp only [Option.any_some, decide_eq_true_eq] at htoo ⊢
      omega
  short n hn := by
    refine htakes.short n ?_
    rw [pathNames_joinPath path hname]
    exact List.mem_append_left _ hn

/-! ### Going along plain paths -/

theorem placeOf_eq (hplain : IsPlainPath path) :
    t.placeOf path = (t.start path).downAll (pathNames path) :=
  Location.walk_eq_downAll hplain.level

theorem start_joinPath (t : Tree) (path : String) (hname : IsEntryName name) :
    t.start (joinPath path name) = t.start path :=
  start_congr (isAbsolute_joinPath hname.noSlash)

theorem placeOf_joinPath (t : Tree) (path : String) (hname : IsEntryName name) :
    t.placeOf (joinPath path name) = (t.placeOf path).down name := by
  have hsteps : t.placeOf path =
      (t.start path).walk ((rootComponents path).map .ofComponent) :=
    DirectoryArea.place_eq { root := path, tree := t }
  rw [hsteps]
  unfold placeOf
  rw [start_joinPath t path hname, hname.pathSteps_eq, Location.walk_append]
  rfl

/-- Steps that lead nowhere can be made in any directory. -/
theorem follow_of_filter {last : Location} {steps : List PathStep}
    (h : t.follow place (steps.filter (· ≠ .stay)) = .ok last)
    (hlast : t.node? last = some .directory) : t.follow place steps = .ok last := by
  induction steps generalizing place with
  | nil => exact h
  | cons step rest ih =>
    cases step with
    | stay =>
      rw [List.filter_cons_of_neg (by decide)] at h
      -- there is a directory here, since a step is made from here or this is the end
      have hplace : t.node? place = some .directory := by
        cases hfilter : rest.filter (· ≠ .stay) with
        | nil =>
          rw [hfilter] at h
          rw [Except.ok.inj h]
          exact hlast
        | cons next others =>
          rw [hfilter] at h
          exact (follow_cons_ok h).1
      rw [follow_stay hplace]
      exact ih h
    | up =>
      rw [List.filter_cons_of_pos (by decide)] at h
      have hplace := (follow_cons_ok h).1
      rw [follow_up hplace] at h ⊢
      exact ih h
    | down name =>
      rw [List.filter_cons_of_pos (by simp)] at h
      obtain ⟨hplace, hstep⟩ := follow_cons_ok h
      obtain ⟨hstay, -⟩ | ⟨hup, -⟩ | ⟨n, hdown, hshort, ⟨node, hnode⟩, hrest⟩ := hstep
      · contradiction
      · contradiction
      · obtain rfl := PathStep.down.inj hdown
        rw [follow_down hplace hshort hnode]
        exact ih hrest

/-- No step is made to a name that is too long. -/
theorem short_of_follow {last : Location} {steps : List PathStep}
    (h : t.follow place steps = .ok last) : ∀ name ∈ stepNames steps, t.isTooLong name = false := by
  induction steps generalizing place with
  | nil => exact fun _ hmem => absurd hmem List.not_mem_nil
  | cons step rest ih =>
    obtain ⟨-, ⟨rfl, hrest⟩ | ⟨rfl, hrest⟩ | ⟨name, rfl, hshort, -, hrest⟩⟩ := follow_cons_ok h
    · exact ih hrest
    · exact ih hrest
    · intro n hn
      rcases List.mem_cons.1 hn with rfl | hn
      · exact hshort
      · exact ih hrest n hn

section

variable (hplain : IsPlainPath path)

include hplain

/-- **A plain path is there with its directories.** -/
theorem follow_rootComponents (htakes : t.Takes path)
    (halong : ∀ x ∈ (t.start path).along (pathNames path), t.node? x = some .directory) :
    t.follow (t.start path) ((rootComponents path).map .ofComponent) = .ok (t.placeOf path) ∧
      t.node? (t.placeOf path) = some .directory := by
  have hdirectory : t.node? (t.placeOf path) = some .directory := by
    rw [placeOf_eq hplain]
    exact DirectoryArea.node?_downAll (node?_start t path) halong
  refine ⟨follow_of_filter ?_ hdirectory, hdirectory⟩
  rw [filter_eq_map_stepNames hplain.level_rootComponents, stepNames_rootComponents,
    placeOf_eq hplain]
  exact follow_downAll htakes.short (node?_start t path) halong

variable (hname : IsEntryName name)

include hname

/-- What stands in the directory of a plain path is there. -/
theorem isThere_joinPath (htakes : t.Takes (joinPath path name))
    (halong : ∀ x ∈ (t.start path).along (pathNames path), t.node? x = some .directory)
    (hthere : t.node? ((t.placeOf path).down name) ≠ none) :
    t.isThere (joinPath path name) = true := by
  obtain ⟨hfollow, hdirectory⟩ := follow_rootComponents hplain (htakes.of_joinPath hname) halong
  obtain ⟨node, hnode⟩ := Option.ne_none_iff_exists'.1 hthere
  -- the path leads to the directory, and one name further down
  have hlocate : t.locate (joinPath path name) = .ok ((t.placeOf path).down name) := by
    unfold locate
    rw [htakes.fault]
    dsimp only
    rw [if_neg (mt String.isEmpty_iff.1 (hname.endsIn path).path_ne_empty),
      start_joinPath t path hname, hname.pathSteps_eq, follow_append, hfollow]
    exact follow_down hdirectory (htakes.short_entry hname) hnode []
  unfold isThere
  rw [hlocate]
  rfl

/-- **Something is there** at the path of an entry exactly if it stands in the directory and the
tree takes the path. -/
theorem isThere_joinPath_iff (hclosed : t.IsClosed) :
    t.isThere (joinPath path name) = true ↔
      t.Takes (joinPath path name) ∧ t.node? ((t.placeOf path).down name) ≠ none := by
  refine ⟨fun hthere => ?_, fun ⟨htakes, hthere⟩ => ?_⟩
  · obtain ⟨last, hlast⟩ := exists_of_isOk hthere
    have hplace := eq_placeOf_of_locate hlast
    rw [placeOf_joinPath t path hname] at hplace
    unfold locate at hlast
    split at hlast
    · contradiction
    next hfault =>
    split at hlast
    · contradiction
    refine ⟨⟨hfault, short_of_follow hlast⟩, ?_⟩
    rw [hname.pathSteps_eq, follow_append] at hlast
    -- the last step leads down, so there is something under the name
    obtain ⟨directory, -, hend⟩ := bind_ok hlast
    obtain ⟨-, ⟨hstay, -⟩ | ⟨hup, -⟩ | ⟨n, hdown, -, ⟨node, hnode⟩, hrest⟩⟩ := follow_cons_ok hend
    · contradiction
    · contradiction
    · rw [← hplace, ← Except.ok.inj hrest, hnode]
      exact Option.some_ne_none node
  · refine isThere_joinPath hplain hname htakes ?_ hthere
    rw [placeOf_eq hplain] at hthere
    exact hclosed.directory_of_along hthere

end

/-! ### Directories that are made -/

/-- No directories are made where a file is in the way. -/
theorem makeFrom_of_isFile (hclosed : t.IsClosed) (made : Bool) {names : List String}
    (hfile : ∃ x ∈ place.along names, t.isFile x = true) :
    ∃ kind, t.makeFrom made place (names.map .down) = (.error kind, t) := by
  induction names generalizing place with
  | nil =>
    obtain ⟨x, hx, -⟩ := hfile
    exact absurd hx List.not_mem_nil
  | cons name rest ih =>
    rw [List.map_cons, makeFrom]
    split
    · exact ⟨_, rfl⟩
    obtain ⟨x, hx, hisFile⟩ := hfile
    obtain ⟨content, hnode⟩ := isFile_iff.1 hisFile
    split
    · next hnone =>
      -- nothing stands below a place where nothing stands
      exfalso
      rcases List.mem_cons.1 hx with rfl | hx
      · rw [hnone] at hnode
        contradiction
      · obtain ⟨front, hne, -, rfl⟩ := Location.mem_along.1 hx
        have hdirectory := hclosed.directory_of_downAll hne (hnode ▸ Option.some_ne_none _)
        rw [hnone] at hdirectory
        contradiction
    · next hdirectory =>
      refine ih ⟨x, (List.mem_cons.1 hx).resolve_left ?_, hisFile⟩
      rintro rfl
      rw [hdirectory] at hnode
      exact Node.noConfusion (Option.some.inj hnode)
    · exact ⟨_, rfl⟩

section

variable (hplain : IsPlainPath path)

include hplain

theorem makeDirectories_eq (hfault : t.pathFault? path = none) :
    t.makeDirectories path = t.makeFrom false (t.start path) ((pathNames path).map .down) := by
  unfold makeDirectories
  rw [hfault, hplain.noDot, hplain.movingSteps_eq]
  split
  · next hroot =>
    rw [Bool.and_eq_true, List.isEmpty_iff] at hroot
    unfold start
    rw [hroot.2, if_pos hroot.1]
    rfl
  · rfl

/-- **A file on the way** keeps all directories of a plain path from being made. -/
theorem makeDirectories_of_isFile (hclosed : t.IsClosed)
    (hfile : ∃ x ∈ (t.start path).along (pathNames path), t.isFile x = true) :
    ∃ kind, t.makeDirectories path = (.error kind, t) := by
  cases hfault : t.pathFault? path with
  | none =>
    rw [makeDirectories_eq hplain hfault]
    exact makeFrom_of_isFile hclosed false hfile
  | some kind =>
    refine ⟨kind, ?_⟩
    unfold makeDirectories
    rw [hfault, hplain.movingSteps_eq]
    split
    · next hroot =>
      -- nothing can be on the way to the root
      rw [Bool.and_eq_true, List.isEmpty_iff, List.map_eq_nil_iff] at hroot
      obtain ⟨x, hx, -⟩ := hfile
      rw [hroot.2] at hx
      exact absurd hx List.not_mem_nil
    · rfl

/-- What is made of the directories of a plain path, and also if not all are made, is at places
along its names. -/
theorem moreDirectories_along (t : Tree) :
    MoreDirectories t (· ∈ (t.start path).along (pathNames path)) (t.makeDirectories path).2 := by
  have hmore := moreDirectories_makeDirectories path t
  refine ⟨hmore.toAlike, fun x => (hmore.node x).imp_right fun ⟨hnone, hdirectory, hpasses⟩ => ?_⟩
  refine ⟨hnone, hdirectory, (hpasses.mem_along hplain.level).resolve_left ?_⟩
  rintro rfl
  rw [node?_start] at hnone
  contradiction

end

section

variable (hfree : ∀ x ∈ (t.start path).along (pathNames path), t.isFile x = false)

include hfree

/-- Where no file is in the way, there is a directory or nothing. -/
theorem eq_none_or_directory_of_free :
    ∀ x ∈ (t.start path).along (pathNames path),
      t.node? x = none ∨ t.node? x = some .directory := by
  intro x hx
  have hnot := hfree x hx
  -- what is free on the way is no file, and there is nothing else that is no directory
  unfold isFile at hnot
  split at hnot
  · contradiction
  next hnofile =>
  cases hnode : t.node? x with
  | none => exact Or.inl rfl
  | some node =>
    cases node with
    | directory => exact Or.inr rfl
    | file content => exact absurd hnode (hnofile content)

/-- **The directories of a plain path are made** if no file is in the way, and nothing else
changes. -/
theorem exists_makeDirectories (hplain : IsPlainPath path) (htakes : t.Takes path) :
    ∃ made, t.makeDirectories path = (.ok (t.placeOf path), made) ∧ t.Extends made ∧
      ∀ x, made.node? x = if x ∈ (t.start path).along (pathNames path) then some .directory
        else t.node? x := by
  rw [makeDirectories_eq hplain htakes.fault, placeOf_eq hplain]
  exact makeFrom_down false htakes.short (eq_none_or_directory_of_free hfree)

/-- **A name that is too long** is noticed when the directories before it are made. -/
theorem makeDirectories_of_isTooLong (hname : IsEntryName name)
    (hplain : IsPlainPath (joinPath path name)) (hfault : t.pathFault? (joinPath path name) = none)
    (hshort : ∀ n ∈ pathNames path, t.isTooLong n = false) (hlong : t.isTooLong name = true) :
    ∃ made, t.makeDirectories (joinPath path name) = (.error .invalidFilename, made) ∧
      ∀ x ∈ (t.start path).along (pathNames path), made.node? x = some .directory := by
  obtain ⟨made, later, hmake, hextends, hnode⟩ :=
    makeFrom_down_append false hshort (eq_none_or_directory_of_free hfree)
  refine ⟨made, ?_, fun x hx => (hnode x).trans (if_pos hx)⟩
  have hlong' : made.isTooLong name = true := (hextends.isTooLong_eq name).trans hlong
  rw [makeDirectories_eq hplain hfault, start_joinPath t path hname, pathNames_joinPath path hname,
    List.map_append, hmake, List.map_singleton, makeFrom, if_pos hlong']

end

/-! ### Files that are written -/

/-- **A file may be written where it may be moved.** -/
theorem writable_eq_ok_iff : t.writable path = .ok place ↔ t.replaceable path = .ok place := by
  by_cases hempty : path.isEmpty = true
  · -- the empty path ends in no name
    obtain rfl := String.isEmpty_iff.1 hempty
    refine iff_of_false (fun h => nomatch h) fun h => ?_
    obtain ⟨before, n, directory, hends, -⟩ := replaceable_ok h
    exact hends.path_ne_empty rfl
  · unfold writable replaceable
    rw [if_neg hempty]
    cases t.locateEnd path with
    | error kind => exact Iff.rfl
    | ok ending =>
      obtain ⟨directory, last⟩ := ending
      cases last with
      | stay => exact iff_of_false (fun h => nomatch h) fun h => nomatch h
      | up => exact iff_of_false (fun h => nomatch h) fun h => nomatch h
      | down n =>
        -- the same is asked in another order, and both fail if the answer is yes
        simp only [bind, Except.bind, pure, Except.pure, throw, throwThe, MonadExceptOf.throw]
        cases endsInSlash path <;> cases t.isTooLong n <;>
        simp only [Bool.false_eq_true, if_true, if_false, reduceCtorEq]

section

variable (hname : IsEntryName name)

include hname

/-- A file is written in the directory of its path, and only if the tree takes the path. -/
theorem takes_of_writable (h : t.writable (joinPath path name) = .ok x) :
    t.Takes (joinPath path name) ∧ x = (t.placeOf path).down name := by
  obtain ⟨before, n, directory, hends, hfault, hfollow, -, hshort, rfl, -⟩ :=
    replaceable_ok (writable_eq_ok_iff.1 h)
  -- the path of an entry ends in its name
  have hcomponents : before ++ [n] = rootComponents path ++ [name] := by
    rw [← hends.components_eq, (hname.endsIn path).components_eq]
  obtain ⟨rfl, hlast⟩ := List.append_inj' hcomponents rfl
  obtain rfl := List.singleton_inj.1 hlast
  refine ⟨⟨hfault, ?_⟩, ?_⟩
  · -- the names on the path are those to its directory, which were followed, and the last one
    rw [pathNames_joinPath path hname]
    intro m hm
    rcases List.mem_append.1 hm with hm | hm
    · rw [← stepNames_rootComponents] at hm
      exact short_of_follow hfollow m hm
    · rw [List.mem_singleton.1 hm]
      exact hshort
  · rw [← placeOf_joinPath t path hname, eq_walk_of_follow hfollow]
    unfold placeOf
    rw [hname.pathSteps_eq, Location.walk_append]
    rfl

/-- **A file may be written** in the directory of a plain path, unless a directory has its name. -/
theorem writable_joinPath (hplain : IsPlainPath path) (htakes : t.Takes (joinPath path name))
    (halong : ∀ x ∈ (t.start path).along (pathNames path), t.node? x = some .directory)
    (hfree : t.node? ((t.placeOf path).down name) ≠ some .directory) :
    t.writable (joinPath path name) = .ok ((t.placeOf path).down name) := by
  obtain ⟨hfollow, hdirectory⟩ := follow_rootComponents hplain (htakes.of_joinPath hname) halong
  rw [writable_eq_ok_iff]
  refine replaceable_eq (hname.endsIn path) htakes.fault (htakes.short_entry hname) ?_ hdirectory
    hfree
  rw [start_joinPath t path hname]
  exact hfollow

end

end Tree

end Stencil
