import Stencil.Command.Execution
import Stencil.Proofs.Output.PlainPaths

/-!
# Both starter files or neither

`init` looks for its files before it makes a directory or writes anything, and it does not undo what
it has done when something fails later. Nevertheless it is all or nothing in a tree in which
everything stands in a directory, as long as the tree takes the paths of the files: then nothing can
fail after the first directory is made (`init_writes`), and what fails before leaves the tree as it
was (`init_refuses`).

A path that is too long is noticed only where it is used. So `init` may then end half-way, with some
of the directories made and only the file with the shorter path written. But what stood in the tree
still stands in it (`init_begins`), since a file is written only at a path that the tree takes, and
there it would have been found before.
-/

namespace Stencil

/-! ### Files written one after the other -/

namespace Tree

variable {t t' : Tree} {path : String} {files : List (String × String)}

/-- **A tree with more files**: wherever it is not like another one, it has a file from a list in
the directory of a path, and the other tree takes the path of that file. -/
structure MoreFiles (t : Tree) (path : String) (files : List (String × String)) (t' : Tree) :
    Prop extends Alike t t' where
  node : ∀ x, t'.node? x = t.node? x ∨ ∃ entry ∈ files, t.Takes (joinPath path entry.1) ∧
    x = (t.placeOf path).down entry.1 ∧ t'.node? x = some (.file (Text.bytesOf entry.2))

end Tree

section

variable {t : Tree} {path name content : String} {rest files : List (String × String)}

theorem writeFiles_cons_error {kind : FaultKind}
    (h : t.writable (joinPath path name) = .error kind) :
    writeFiles Tree.access path ((name, content) :: rest) t =
      (([], some (joinPath path name, { kind })), t) := by
  have hwrite : Tree.access.write (joinPath path name) content t = (.error { kind }, t) := by
    show ((t.writeFile _ _).1.mapError _, (t.writeFile _ _).2) = _
    unfold Tree.writeFile
    rw [h]
    rfl
  unfold writeFiles
  simp only [bind, StateT.bind, hwrite]
  rfl

theorem writeFiles_cons_ok {x : Location} (h : t.writable (joinPath path name) = .ok x) :
    writeFiles Tree.access path ((name, content) :: rest) t =
      let run := writeFiles Tree.access path rest (t.put x (.file (Text.bytesOf content)))
      ((name :: run.1.1, run.1.2), run.2) := by
  have hwrite : Tree.access.write (joinPath path name) content t =
      (.ok (), t.put x (.file (Text.bytesOf content))) := by
    show ((t.writeFile _ _).1.mapError _, (t.writeFile _ _).2) = _
    unfold Tree.writeFile
    rw [h]
    rfl
  rw [writeFiles]
  simp only [bind, StateT.bind, hwrite]
  rfl

/-- **Writing files** adds some of them to the directory, and all of them only if the tree takes
all their paths. -/
theorem moreFiles_writeFiles (path : String) (hnames : ∀ entry ∈ files, IsEntryName entry.1)
    (t : Tree) :
    t.MoreFiles path files (writeFiles Tree.access path files t).2 ∧
      ((writeFiles Tree.access path files t).1.2 = none →
        ∀ entry ∈ files, t.Takes (joinPath path entry.1)) := by
  -- the tree changes at each file that is written, so the statement is for every tree
  induction files generalizing t with
  | nil => exact ⟨⟨.refl t, fun _ => Or.inl rfl⟩, fun _ _ hmem => absurd hmem List.not_mem_nil⟩
  | cons entry rest ih =>
    obtain ⟨name, content⟩ := entry
    cases hwritable : t.writable (joinPath path name) with
    | error kind =>
      rw [writeFiles_cons_error hwritable]
      exact ⟨⟨.refl t, fun _ => Or.inl rfl⟩, fun hnone => absurd hnone (Option.some_ne_none _)⟩
    | ok place =>
      rw [writeFiles_cons_ok hwritable]
      dsimp only
      have hname : IsEntryName name := hnames _ List.mem_cons_self
      obtain ⟨htakes, hplace⟩ := Tree.takes_of_writable hname hwritable
      -- a file may stand at the place, or nothing, but no directory
      obtain ⟨-, -, -, -, -, -, -, -, -, hfree⟩ :=
        Tree.replaceable_ok (Tree.writable_eq_ok_iff.1 hwritable)
      have hput := Tree.alike_put t place (.file (Text.bytesOf content))
      obtain ⟨hmore, hall⟩ := ih (fun entry hentry => hnames entry (List.mem_cons_of_mem _ hentry))
        (t.put place (.file (Text.bytesOf content)))
      refine ⟨⟨hput.trans hmore.toAlike, fun x => ?_⟩, fun hnone entry hentry => ?_⟩
      · rcases hmore.node x with hsame | ⟨entry, hentry, hentryTakes, hx, hfile⟩
        · -- a place that the rest left alone is as this file left it
          rw [hsame, Tree.node?_put_of_ne hfree]
          split
          · next heq =>
            exact Or.inr ⟨_, List.mem_cons_self, htakes, heq.trans hplace, rfl⟩
          · exact Or.inl rfl
        · have htakesBefore := hentryTakes.congr hput.symm
          exact Or.inr ⟨entry, List.mem_cons_of_mem _ hentry, htakesBefore, hx, hfile⟩
      · rcases List.mem_cons.1 hentry with rfl | hentry
        · exact htakes
        · exact (hall hnone entry hentry).congr hput.symm

/-- **All files are written** into a directory that is there, if the tree takes their paths and no
directories have their names. -/
theorem writeFiles_eq (hplain : IsPlainPath path) (hnames : ∀ entry ∈ files, IsEntryName entry.1)
    (hnodup : (files.map (·.1)).Nodup)
    (htakes : ∀ entry ∈ files, t.Takes (joinPath path entry.1))
    (halong : ∀ x ∈ (t.start path).along (pathNames path), t.node? x = some .directory)
    (hfree : ∀ entry ∈ files, t.node? ((t.placeOf path).down entry.1) ≠ some .directory) :
    ∃ t', writeFiles Tree.access path files t = ((files.map (·.1), none), t') ∧
      ∀ entry ∈ files,
        t'.node? ((t.placeOf path).down entry.1) = some (.file (Text.bytesOf entry.2)) := by
  induction files generalizing t with
  | nil => exact ⟨t, rfl, fun _ hmem => absurd hmem List.not_mem_nil⟩
  | cons entry rest ih =>
    obtain ⟨name, content⟩ := entry
    have hrest : ∀ entry ∈ rest, IsEntryName entry.1 :=
      fun entry hentry => hnames entry (List.mem_cons_of_mem _ hentry)
    have hname : name ∉ rest.map (·.1) := (List.nodup_cons.1 hnodup).1
    have hplace : t.node? ((t.placeOf path).down name) ≠ some .directory :=
      hfree (name, content) List.mem_cons_self
    have hother : ∀ entry ∈ rest,
        (t.placeOf path).down entry.1 ≠ (t.placeOf path).down name := by
      intro entry hentry heq
      -- the files have distinct names, so that no one of them takes the place of another
      exact hname (List.mem_map.2 ⟨entry, hentry, (Location.down_inj.1 heq).2⟩)
    -- the others are written into the tree that has this file
    have hput := Tree.node?_put_of_ne hplace (.file (Text.bytesOf content))
    have halong' : ∀ x ∈ (t.start path).along (pathNames path),
        (t.put ((t.placeOf path).down name) (.file (Text.bytesOf content))).node? x =
          some .directory := by
      intro x hx
      rw [hput, if_neg, halong x hx]
      rintro rfl
      exact hplace (halong _ hx)
    have hfree' : ∀ entry ∈ rest,
        (t.put ((t.placeOf path).down name) (.file (Text.bytesOf content))).node?
          ((t.placeOf path).down entry.1) ≠ some .directory := by
      intro entry hentry
      rw [hput, if_neg (hother entry hentry)]
      exact hfree entry (List.mem_cons_of_mem _ hentry)
    have htakes' : ∀ entry ∈ rest,
        (t.put ((t.placeOf path).down name) (.file (Text.bytesOf content))).Takes
          (joinPath path entry.1) := fun entry hentry =>
      (htakes entry (List.mem_cons_of_mem _ hentry)).congr (Tree.alike_put _ _ _)
    obtain ⟨t', hwrite, hfiles⟩ := ih hrest (List.nodup_cons.1 hnodup).2 htakes' halong' hfree'
    have hwritable := Tree.writable_joinPath (hnames (name, content) List.mem_cons_self) hplain
      (htakes (name, content) List.mem_cons_self) halong hplace
    refine ⟨t', ?_, fun entry hentry => ?_⟩
    · rw [writeFiles_cons_ok hwritable, hwrite]
      rfl
    · rcases List.mem_cons.1 hentry with rfl | hentry
      · -- and this file is still there
        have hmore := (moreFiles_writeFiles path hrest
          (t.put ((t.placeOf path).down name) (.file (Text.bytesOf content)))).1
        rw [hwrite] at hmore
        rcases hmore.node ((t.placeOf path).down name) with hsame | ⟨other, hmem, -, heq, -⟩
        · rw [hsame, hput, if_pos rfl]
        · exact absurd heq.symm (hother other hmem)
      · exact hfiles entry hentry

end

/-! ### What a tree looks like afterwards -/

namespace Tree

variable {t t' : Tree} {path : String}

/-- **The starter files are not to be written**: a file is on the way to their directory, or
something has the name of one of them there. -/
def IsTaken (t : Tree) (path : String) : Prop :=
  (∃ x ∈ (t.start path).along (pathNames path), t.isFile x = true) ∨
    ∃ entry ∈ Starter.files, t.node? ((t.placeOf path).down entry.1) ≠ none

instance : Decidable (t.IsTaken path) :=
  inferInstanceAs (Decidable (_ ∨ _))

/-- **A tree with the starter files** in the directory of a path. The directories that lead there
are there too, and everything else is as it is in another tree. -/
structure Started (t : Tree) (path : String) (t' : Tree) : Prop extends Alike t t' where
  directory : ∀ x ∈ (t.start path).along (pathNames path), t'.node? x = some .directory
  file : ∀ entry ∈ Starter.files,
    t'.node? ((t.placeOf path).down entry.1) = some (.file (Text.bytesOf entry.2))
  kept : ∀ x, x ∉ (t.start path).along (pathNames path) →
    (∀ entry ∈ Starter.files, x ≠ (t.placeOf path).down entry.1) → t'.node? x = t.node? x

/-- **A tree in which some of that is done**: it has everything that is in the other one, and
wherever it has more, this is a directory that leads to the starter files or one of the files, which
has a path that the tree takes. -/
structure Begun (t : Tree) (path : String) (t' : Tree) : Prop extends Alike t t' where
  node : ∀ x, t'.node? x = t.node? x ∨ t.node? x = none ∧
    (x ∈ (t.start path).along (pathNames path) ∧ t'.node? x = some .directory ∨
      ∃ entry ∈ Starter.files, t.Takes (joinPath path entry.1) ∧
        x = (t.placeOf path).down entry.1 ∧ t'.node? x = some (.file (Text.bytesOf entry.2)))

theorem Begun.refl (t : Tree) (path : String) : t.Begun path t :=
  ⟨.refl t, fun _ => Or.inl rfl⟩

end Tree

namespace Starter

theorem isEntryName : ∀ entry ∈ files, IsEntryName entry.1 := by
  intro entry hentry
  simp only [files, List.mem_cons, List.not_mem_nil, or_false] at hentry
  rcases hentry with rfl | rfl
  · exact ⟨by decide, by decide⟩
  · exact ⟨by decide, by decide⟩

theorem nodup_names : (files.map (·.1)).Nodup := by
  decide

end Starter

/-! ### The command -/

section

variable {o : InitOptions} {t made : Tree} {place : Location}

theorem firstThere?_access (paths : List String) (t : Tree) :
    firstThere? Tree.access paths t = (paths.find? t.isThere, t) := by
  induction paths with
  | nil => rfl
  | cons path rest ih =>
    rw [firstThere?, List.find?_cons]
    show (if t.isThere path then _ else _ : StateM Tree _) t = _
    cases t.isThere path with
    | true => rfl
    | false => exact ih

/-- One of the files is there, or none is. -/
theorem there_or_none (o : InitOptions) (t : Tree) :
    (∃ entry ∈ Starter.files, t.isThere (joinPath o.output entry.1) = true) ∨
      ∀ entry ∈ Starter.files, t.isThere (joinPath o.output entry.1) = false := by
  by_cases h : ∃ entry ∈ Starter.files, t.isThere (joinPath o.output entry.1) = true
  · exact Or.inl h
  · exact Or.inr fun entry hentry => Bool.eq_false_iff.2 fun hthere => h ⟨entry, hentry, hthere⟩

theorem firstThere?_eq_none
    (hnone : ∀ entry ∈ Starter.files, t.isThere (joinPath o.output entry.1) = false) :
    firstThere? Tree.access (Starter.files.map fun file => joinPath o.output file.1) t =
      (none, t) := by
  rw [firstThere?_access, List.find?_eq_none.2]
  intro path hpath
  obtain ⟨entry, hentry, rfl⟩ := List.mem_map.1 hpath
  rw [hnone entry hentry]
  exact Bool.false_ne_true

/-- How `init` ends, given the names of the files that were written, and the path and the fault of
the one that was not. -/
def InitOptions.ending (o : InitOptions) (written : List String × Option (String × Fault)) :
    Ending :=
  let added := written.1.map Line.added
  match written.2 with
  | some (path, fault) => .shown added (some ["Failed to write " ++ path, fault.text])
  | none =>
    .shown (added ++ [.blank, .text ("Next: etch run -c " ++ joinPath o.output "etch.toml")]) none

theorem exitCode_ending (o : InitOptions) (written : List String × Option (String × Fault)) :
    (o.ending written).exitCode = if written.2 = none then 0 else 1 := by
  obtain ⟨names, _ | ⟨path, fault⟩⟩ := written <;> rfl

variable (hkeep : o.force = false)

include hkeep

/-- **`init` stops** if it finds one of its files. -/
theorem initCommand_of_there
    (h : ∃ entry ∈ Starter.files, t.isThere (joinPath o.output entry.1) = true) :
    (initCommand Tree.access o t).1.exitCode = 1 ∧ (initCommand Tree.access o t).2 = t := by
  obtain ⟨path, hfind⟩ : ∃ path,
      (Starter.files.map fun file => joinPath o.output file.1).find? t.isThere = some path := by
    obtain ⟨entry, hentry, hthere⟩ := h
    rw [← Option.isSome_iff_exists, List.find?_isSome]
    exact ⟨_, List.mem_map_of_mem hentry, hthere⟩
  unfold initCommand
  rw [hkeep]
  simp only [bind, StateT.bind, firstThere?_access, hfind, Bool.false_eq_true, if_false]
  exact ⟨rfl, rfl⟩

variable (hnone : ∀ entry ∈ Starter.files, t.isThere (joinPath o.output entry.1) = false)

include hnone

/-- If it finds none, it makes their directory, and stops if that fails. -/
theorem initCommand_of_unmade {kind : FaultKind}
    (hmake : t.makeDirectories o.output = (.error kind, made)) :
    initCommand Tree.access o t =
      (.shown [] (some ["Failed to create " ++ o.output, kind.text]), made) := by
  have hfirst := firstThere?_eq_none hnone
  have haccess : Tree.access.makeDirectories o.output t = (.error { kind }, made) := by
    show (((t.makeDirectories o.output).1.map _).mapError _, (t.makeDirectories o.output).2) = _
    rw [hmake]
    rfl
  unfold initCommand
  rw [hkeep]
  simp only [bind, StateT.bind, hfirst, haccess, Bool.false_eq_true, if_false]
  rfl

/-- Once the directory is made, it writes the files. -/
theorem initCommand_of_made (hmake : t.makeDirectories o.output = (.ok place, made)) :
    initCommand Tree.access o t =
      let run := writeFiles Tree.access o.output Starter.files made
      (o.ending run.1, run.2) := by
  -- no file is found, so the command goes on to the directories
  have hfirst := firstThere?_eq_none hnone
  have haccess : Tree.access.makeDirectories o.output t = (.ok (), made) := by
    show (((t.makeDirectories o.output).1.map _).mapError _, (t.makeDirectories o.output).2) = _
    rw [hmake]
    rfl
  unfold initCommand
  rw [hkeep]
  simp only [bind, StateT.bind, hfirst, haccess, Bool.false_eq_true, if_false]
  rcases writeFiles Tree.access o.output Starter.files made with ⟨⟨names, _ | failure⟩, final⟩ <;>
  rfl

end

/-! ### All or nothing -/

namespace Tree

variable {t : Tree} {path name : String}

/-- An entry of the directory of a plain path is not on the way there. -/
theorem down_not_mem_along (hplain : IsPlainPath path) :
    (t.placeOf path).down name ∉ (t.start path).along (pathNames path) := by
  rw [placeOf_eq hplain, ← Location.downAll_concat, Location.mem_along]
  rintro ⟨front, -, hfront, heq⟩
  have hlength := hfront.length_le
  rw [← Location.downAll_inj.1 heq, List.length_append, List.length_singleton] at hlength
  omega

end Tree

section

variable {o : InitOptions} {t : Tree} (hkeep : o.force = false) (hplain : IsPlainPath o.output)
  (hclosed : t.IsClosed)

include hkeep hplain hclosed

/-- **`init` refuses** to go on from where a file is in the way, or to write where something is.
Then nothing is done. -/
theorem init_refuses
    (h : (∃ x ∈ (t.start o.output).along (pathNames o.output), t.isFile x = true) ∨
      ∃ entry ∈ Starter.files, t.Takes (joinPath o.output entry.1) ∧
        t.node? ((t.placeOf o.output).down entry.1) ≠ none) :
    (initCommand Tree.access o t).1.exitCode = 1 ∧ (initCommand Tree.access o t).2 = t := by
  rcases there_or_none o t with hthere | hnone
  · -- with a file found the command ends there, and otherwise what is in the way stops it
    exact initCommand_of_there hkeep hthere
  · rcases h with hfile | ⟨entry, hentry, hfound⟩
    · -- no directory can be made below a file
      obtain ⟨kind, hmake⟩ := Tree.makeDirectories_of_isFile hplain hclosed hfile
      rw [initCommand_of_unmade hkeep hnone hmake]
      exact ⟨rfl, rfl⟩
    · have hisThere :=
        (Tree.isThere_joinPath_iff hplain (Starter.isEntryName entry hentry) hclosed).2 hfound
      exact absurd hisThere (Bool.eq_false_iff.1 (hnone entry hentry))

/-- **`init` writes both files** where nothing is in the way, if the tree takes their paths. -/
theorem init_writes (htakes : ∀ entry ∈ Starter.files, t.Takes (joinPath o.output entry.1))
    (hfree : ¬ t.IsTaken o.output) :
    (initCommand Tree.access o t).1.exitCode = 0 ∧
      t.Started o.output (initCommand Tree.access o t).2 := by
  obtain ⟨hway, hentries⟩ := not_or.1 hfree
  have hnew : ∀ entry ∈ Starter.files, t.node? ((t.placeOf o.output).down entry.1) = none := by
    intro entry hentry
    -- at a free output, nothing stands at the places of the files
    by_contra hthere
    exact hentries ⟨entry, hentry, hthere⟩
  have hnone : ∀ entry ∈ Starter.files, t.isThere (joinPath o.output entry.1) = false := by
    intro entry hentry
    rw [Bool.eq_false_iff, ne_eq,
      Tree.isThere_joinPath_iff hplain (Starter.isEntryName entry hentry) hclosed]
    exact fun hthere => hthere.2 (hnew entry hentry)
  -- a tree that takes the path of a file takes the path of its directory
  have htakesPath : t.Takes o.output :=
    (htakes _ List.mem_cons_self).of_joinPath (Starter.isEntryName _ List.mem_cons_self)
  obtain ⟨made, hmake, hextends, hmade⟩ := Tree.exists_makeDirectories
    (fun x hx => Bool.eq_false_iff.2 fun hfile => hway ⟨x, hx, hfile⟩) hplain htakesPath
  -- with the directories made, nothing stands where the files are to be
  have hstart : made.start o.output = t.start o.output := hextends.start_eq o.output
  have hplace : made.placeOf o.output = t.placeOf o.output := Tree.placeOf_congr hextends.home _
  have halong : ∀ x ∈ (made.start o.output).along (pathNames o.output),
      made.node? x = some .directory := by
    intro x hx
    rw [hmade, if_pos (hstart ▸ hx)]
  have hmadeNew : ∀ entry ∈ Starter.files,
      made.node? ((made.placeOf o.output).down entry.1) = none := by
    intro entry hentry
    rw [hplace, hmade, if_neg (Tree.down_not_mem_along hplain)]
    exact hnew entry hentry
  obtain ⟨final, hwrite, hfiles⟩ := writeFiles_eq hplain Starter.isEntryName Starter.nodup_names
    (fun entry hentry => (htakes entry hentry).congr hextends.toAlike) halong
    fun entry hentry => Tree.ne_directory_of_eq_none (hmadeNew entry hentry)
  have hmore := (moreFiles_writeFiles o.output Starter.isEntryName made).1
  rw [hwrite] at hmore
  rw [initCommand_of_made hkeep hnone hmake, hwrite]
  dsimp only
  rw [exitCode_ending, if_pos rfl]
  refine ⟨rfl, ⟨hextends.toAlike.trans hmore.toAlike, fun x hx => ?_, ?_, fun x hx hother => ?_⟩⟩
  · -- the directories are those made, for no file has the place of a directory on the way
    rcases hmore.node x with hsame | ⟨entry, -, -, rfl, -⟩
    · rw [hsame, hmade, if_pos hx]
    · rw [hplace] at hx
      exact absurd hx (Tree.down_not_mem_along hplain)
  · rwa [hplace] at hfiles
  · rcases hmore.node x with hsame | ⟨entry, hentry, -, heq, -⟩
    · rw [hsame, hmade, if_neg hx]
    · rw [hplace] at heq
      exact absurd heq (hother entry hentry)

/-- **What stood in the tree still stands there**, however `init` ends, and what is new belongs to
what it was to do. -/
theorem init_begins : t.Begun o.output (initCommand Tree.access o t).2 := by
  -- the command stops at a file that it finds, at a directory, or goes on to the files
  rcases there_or_none o t with hthere | hnone
  · rw [(initCommand_of_there hkeep hthere).2]
    exact .refl t o.output
  have hmake := Tree.moreDirectories_along hplain t
  -- what the directories change, the command changes, whether or not all are made
  rcases hresult : t.makeDirectories o.output with ⟨kind | place, made⟩ <;> rw [hresult] at hmake
  · rw [initCommand_of_unmade hkeep hnone hresult]
    refine ⟨hmake.toAlike, fun x => (hmake.node x).imp_right fun ⟨hnew, hdirectory, hx⟩ => ?_⟩
    exact ⟨hnew, Or.inl ⟨hx, hdirectory⟩⟩
  · rw [initCommand_of_made hkeep hnone hresult]
    have hmore := (moreFiles_writeFiles o.output Starter.isEntryName made).1
    refine ⟨hmake.toAlike.trans hmore.toAlike, fun x => ?_⟩
    rcases hmore.node x with hsame | ⟨entry, hentry, htakes, heq, hfile⟩
    · rw [hsame]
      exact (hmake.node x).imp_right fun ⟨hnew, hdirectory, hx⟩ => ⟨hnew, Or.inl ⟨hx, hdirectory⟩⟩
    · rw [Tree.placeOf_congr hmake.home] at heq
      -- at a path that the tree takes, something would have been found
      have htakesNow := htakes.congr hmake.symm
      have hnew : t.node? x = none := by
        by_contra hold
        refine Bool.eq_false_iff.1 (hnone entry hentry) ?_
        rw [Tree.isThere_joinPath_iff hplain (Starter.isEntryName entry hentry) hclosed, ← heq]
        exact ⟨htakesNow, hold⟩
      exact Or.inr ⟨hnew, Or.inr ⟨entry, hentry, htakesNow, heq, hfile⟩⟩

end

section

variable {o : InitOptions} {t : Tree} (hkeep : o.force = false)

include hkeep

/-- **`init` fails** if the tree does not take the paths of both files. -/
theorem init_fails (htakes : ¬ ∀ entry ∈ Starter.files, t.Takes (joinPath o.output entry.1)) :
    (initCommand Tree.access o t).1.exitCode = 1 := by
  rcases there_or_none o t with hthere | hnone
  · exact (initCommand_of_there hkeep hthere).1
  rcases hresult : t.makeDirectories o.output with ⟨kind | place, made⟩
  · rw [initCommand_of_unmade hkeep hnone hresult]
    rfl
  · have hmake := Tree.moreDirectories_makeDirectories o.output t
    rw [hresult] at hmake
    rw [initCommand_of_made hkeep hnone hresult]
    dsimp only
    rw [exitCode_ending, if_neg]
    intro hwritten
    -- all files written means that the tree took their paths, also before the directories
    have hall := (moreFiles_writeFiles o.output Starter.isEntryName made).2 hwritten
    exact htakes fun entry hentry => (hall entry hentry).congr hmake.symm

/-- **`init` refuses to run again** where its files are. -/
theorem init_refuses_again (hplain : IsPlainPath o.output) {t' : Tree}
    (htakes : ∀ entry ∈ Starter.files, t.Takes (joinPath o.output entry.1))
    (hstarted : t.Started o.output t') :
    (initCommand Tree.access o t').1.exitCode = 1 ∧ (initCommand Tree.access o t').2 = t' := by
  obtain ⟨entry, hentry⟩ : ∃ entry, entry ∈ Starter.files := ⟨_, List.mem_cons_self⟩
  refine initCommand_of_there hkeep ⟨entry, hentry, ?_⟩
  refine Tree.isThere_joinPath hplain (Starter.isEntryName entry hentry)
    ((htakes entry hentry).congr hstarted.toAlike) ?_ ?_
  · rw [hstarted.start_eq]
    exact hstarted.directory
  · rw [Tree.placeOf_congr hstarted.home, hstarted.file entry hentry]
    exact Option.some_ne_none _

/-- **`init` stops half-way** at a name that is too long: the directories before it are made. -/
theorem init_stops_halfway {path name : String} (hout : o.output = joinPath path name)
    (hname : IsEntryName name) (hplain : IsPlainPath o.output) (hclosed : t.IsClosed)
    (hfault : t.pathFault? o.output = none)
    (hshort : ∀ n ∈ pathNames path, t.isTooLong n = false) (hlong : t.isTooLong name = true)
    (hfree : ∀ x ∈ (t.start path).along (pathNames path), t.isFile x = false) :
    (initCommand Tree.access o t).1.exitCode = 1 ∧
      ∀ x ∈ (t.start path).along (pathNames path),
        (initCommand Tree.access o t).2.node? x = some .directory := by
  -- a file below a name that is too long is never found
  have hnone : ∀ entry ∈ Starter.files, t.isThere (joinPath o.output entry.1) = false := by
    intro entry hentry
    have hentryName := Starter.isEntryName entry hentry
    rw [Bool.eq_false_iff, ne_eq, Tree.isThere_joinPath_iff hplain hentryName hclosed]
    rintro ⟨htakes, -⟩
    have htakesOut : t.Takes (joinPath path name) := hout ▸ htakes.of_joinPath hentryName
    rw [htakesOut.short_entry hname] at hlong
    contradiction
  rw [hout] at hplain hfault
  obtain ⟨made, hmake, hmade⟩ :=
    Tree.makeDirectories_of_isTooLong hfree hname hplain hfault hshort hlong
  rw [← hout] at hmake
  rw [initCommand_of_unmade hkeep hnone hmake]
  exact ⟨rfl, hmade⟩

end

/-- **A run of `init` is all or nothing**: it fails and leaves the tree as it is if its files are
not to be written, and else it succeeds, both files are there, and it will not run again. -/
def InitOptions.IsAllOrNothing (o : InitOptions) (t : Tree) : Prop :=
  let run := initCommand Tree.access o t
  (t.IsTaken o.output → run.1.exitCode = 1 ∧ run.2 = t) ∧
  (¬ t.IsTaken o.output → run.1.exitCode = 0 ∧ t.Started o.output run.2 ∧
    let again := initCommand Tree.access o run.2
    again.1.exitCode = 1 ∧ again.2 = run.2)

/-- **`init` is all or nothing** where the tree takes the paths of its files. Whether it does or
not, `init` fails and does nothing if a file is in the way, or if one of its own files is there
under a path that the tree takes; and it changes nothing that is there. If the tree does not take
both paths, it fails, and some of what it was to do may be done. -/
theorem init_allOrNothing {o : InitOptions} {t : Tree} (hkeep : o.force = false)
    (hplain : IsPlainPath o.output) (hclosed : t.IsClosed) :
    ((∀ entry ∈ Starter.files, t.Takes (joinPath o.output entry.1)) → o.IsAllOrNothing t) ∧
    ((∃ x ∈ (t.start o.output).along (pathNames o.output), t.isFile x = true) ∨
      (∃ entry ∈ Starter.files, t.Takes (joinPath o.output entry.1) ∧
        t.node? ((t.placeOf o.output).down entry.1) ≠ none) →
      (initCommand Tree.access o t).1.exitCode = 1 ∧ (initCommand Tree.access o t).2 = t) ∧
    t.Begun o.output (initCommand Tree.access o t).2 ∧
    (¬ (∀ entry ∈ Starter.files, t.Takes (joinPath o.output entry.1)) →
      (initCommand Tree.access o t).1.exitCode = 1) := by
  refine ⟨fun htakes => ⟨fun htaken => ?_, fun hfree => ?_⟩, init_refuses hkeep hplain hclosed,
    init_begins hkeep hplain hclosed, init_fails hkeep⟩
  · -- what was taken is either a file on the way or one of the files to be written
    refine init_refuses hkeep hplain hclosed (htaken.imp_right ?_)
    rintro ⟨entry, hentry, hthere⟩
    exact ⟨entry, hentry, htakes entry hentry, hthere⟩
  · obtain ⟨hexit, hstarted⟩ := init_writes hkeep hplain hclosed htakes hfree
    exact ⟨hexit, hstarted, init_refuses_again hkeep hplain htakes hstarted⟩

/-- A tree with a file in a directory. -/
def keptTree : Tree :=
  { nodes := [(.ofNames ["a"], .directory), (.ofNames ["a", "keep"], .file [107])] }

theorem takes_keptTree : ∀ entry ∈ Starter.files, keptTree.Takes (joinPath "a/b" entry.1) := by
  intro entry hentry
  simp only [Starter.files, List.mem_cons, List.not_mem_nil, or_false] at hentry
  rcases hentry with rfl | rfl <;>
  exact ⟨by decide +kernel, by decide +kernel⟩

/-- A new directory is made beside the file, and nothing is done in the directory of the file if a
file is in the way. -/
theorem init_allOrNothing_nested :
    IsPlainPath "a/b" ∧ IsPlainPath "a/keep/b" ∧ keptTree.IsClosed ∧
      ((initCommand Tree.access { output := "a/b" } keptTree).1.exitCode = 0 ∧
        keptTree.Started "a/b" (initCommand Tree.access { output := "a/b" } keptTree).2) ∧
      (initCommand Tree.access { output := "a/keep/b" } keptTree).1.exitCode = 1 ∧
      (initCommand Tree.access { output := "a/keep/b" } keptTree).2 = keptTree := by
  have hnew : IsPlainPath "a/b" := isPlainPath_of_components (by decide) (by decide +kernel)
  have hblocked : IsPlainPath "a/keep/b" :=
    isPlainPath_of_components (by decide) (by decide +kernel)
  have hclosed : keptTree.IsClosed := Tree.isClosed_of_nodes (by decide +kernel)
  have hwhole := (init_allOrNothing (o := { output := "a/b" }) rfl hnew hclosed).1 takes_keptTree
  obtain ⟨hexit, hstarted, -⟩ := hwhole.2 (by decide +kernel)
  have hrefused := (init_allOrNothing (o := { output := "a/keep/b" }) rfl hblocked hclosed).2.1
    (Or.inl (by decide +kernel))
  exact ⟨hnew, hblocked, hclosed, ⟨hexit, hstarted⟩, hrefused⟩

/-! ### A name that is too long -/

/-- A name of 256 letters, one more than a name may have. -/
def longName : String :=
  String.ofList (List.replicate 256 'a')

theorem mem_longName {c : Char} (h : c ∈ longName.toList) : c = 'a' := by
  unfold longName at h
  rw [String.toList_ofList] at h
  exact List.eq_of_mem_replicate h

theorem utf8ByteSize_replicate (n : Nat) (c : Char) :
    (String.ofList (List.replicate n c)).utf8ByteSize = n * c.utf8Size := by
  induction n with
  | zero =>
    rw [Nat.zero_mul]
    rfl
  | succ n ih =>
    rw [List.replicate_succ, String.ofList_cons, String.utf8ByteSize_append, ih,
      String.utf8ByteSize_singleton, Nat.succ_mul, Nat.add_comm]

theorem utf8ByteSize_longName : longName.utf8ByteSize = 256 :=
  utf8ByteSize_replicate 256 'a'

theorem isEntryName_longName : IsEntryName longName where
  noSlash hmem := absurd (mem_longName hmem) (by decide)
  step := by
    refine step_of_head (c := 'a') ?_ (by decide)
    unfold longName
    rw [String.toList_ofList]
    rfl

theorem rootComponents_x : rootComponents "x" = ["x"] := by
  decide +kernel

theorem isPlainPath_longName : IsPlainPath (joinPath "x" longName) := by
  refine isPlainPath_of_components (fun hmem => ?_) ?_
  · rcases mem_joinPath hmem with hx | hslash | hlong
    · exact absurd hx (by decide)
    · exact absurd hslash (by decide)
    · exact absurd (mem_longName hlong) (by decide)
  · intro component hcomponent
    rw [components_joinPath isEntryName_longName.noSlash, rootComponents_x] at hcomponent
    rcases List.mem_cons.1 hcomponent with rfl | hlong
    · decide
    · rw [List.mem_singleton.1 hlong]
      exact (ne_of_ofComponent isEntryName_longName.step).2

/-- The path as a whole is not too long. -/
theorem pathFault?_longName : ({} : Tree).pathFault? (joinPath "x" longName) = none := by
  have hhead : longName.toList.head? ≠ some '/' :=
    fun hslash => isEntryName_longName.noSlash (List.mem_of_mem_head? hslash)
  have hjoin : joinPath "x" longName = "x/" ++ longName := by
    unfold joinPath
    rw [if_neg hhead]
    exact if_neg (by decide)
  -- two more bytes than the name itself, which is far below the limit of a path
  have hsize : (joinPath "x" longName).utf8ByteSize = 258 := by
    rw [hjoin, String.utf8ByteSize_append, utf8ByteSize_longName]
    decide
  unfold Tree.pathFault?
  rw [if_neg, hsize]
  · decide
  · rw [List.contains_iff_mem]
    exact isPlainPath_longName.noNull

/-- Behind a new directory, a name that is too long keeps `init` from being all or nothing. -/
theorem not_isAllOrNothing_of_isTooLong {name : String} (hname : IsEntryName name)
    (hplain : IsPlainPath (joinPath "x" name))
    (hfault : ({} : Tree).pathFault? (joinPath "x" name) = none)
    (hlong : ({} : Tree).isTooLong name = true) :
    ¬ InitOptions.IsAllOrNothing { output := joinPath "x" name } {} := by
  intro hwhole
  have hclosed : ({} : Tree).IsClosed := Tree.isClosed_of_nodes (by decide)
  obtain ⟨hexit, hmade⟩ := init_stops_halfway (o := { output := joinPath "x" name }) rfl rfl
    hname hplain hclosed hfault (by decide +kernel) hlong (by decide +kernel)
  by_cases htaken : ({} : Tree).IsTaken (joinPath "x" name)
  · -- the tree is not as it was
    have hsame := (hwhole.1 htaken).2
    have hdirectory := hmade (Location.root.down "x") (by decide +kernel)
    rw [hsame] at hdirectory
    exact absurd hdirectory (by decide)
  · rw [(hwhole.2 htaken).1] at hexit
    exact absurd hexit (by decide)

/-- **A name that is too long** leaves half of the work done: the directory before it is made, and
no file is written. -/
theorem not_isAllOrNothing_longName :
    IsPlainPath (joinPath "x" longName) ∧ ({} : Tree).IsClosed ∧
      ¬ InitOptions.IsAllOrNothing { output := joinPath "x" longName } {} := by
  have hlong : ({} : Tree).isTooLong longName = true := by
    simp [Tree.isTooLong, utf8ByteSize_longName]
  exact ⟨isPlainPath_longName, Tree.isClosed_of_nodes (by decide),
    not_isAllOrNothing_of_isTooLong isEntryName_longName isPlainPath_longName pathFault?_longName
      hlong⟩

end Stencil
