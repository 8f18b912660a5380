import Stencil.Proofs.Output.Ways

/-!
# All or nothing

Writing an artifact into a directory ends in one of three ways (`Outcome`), whatever the tree is,
what the root says and what the artifact is called. A name without a path leaves everything as it
was. If anything fails on the way to the file, or there, there may be more directories than before,
and nothing else is other than it was. And if nothing fails, the text stands at the path of the name.
The temporary file is not among what is there in the end.

A tree is not all that can stand in the way: a device can be full or go away at any moment. So the
ends are those of any `IsDisk`, an area that does what a directory does or fails. Up to the commit,
what its stream holds is apart from what was there (`IsDisk.writeAll`), and is thrown away with a
fault; the commit puts it in place at once.
-/

namespace Stencil

namespace Tree

variable {t t' : Tree} {among : Location → Prop} {path : String} {content : List UInt8}
  {place : Location}

/-- **A tree with a file at the end of a path**, which is at a place where no directory was. It has
more directories in some places, and is otherwise like another tree. -/
structure WithFile (t : Tree) (among : Location → Prop) (path : String) (content : List UInt8)
    (place : Location) (t' : Tree) : Prop extends Alike t t' where
  located : t'.locate path = .ok place
  read : t'.readFile path = .ok content
  file : t'.node? place = some (.file content)
  free : t.node? place ≠ some .directory
  node : ∀ x, x ≠ place → t'.node? x = t.node? x ∨
    t.node? x = none ∧ t'.node? x = some .directory ∧ among x

/-- A file that is put where it can be moved is at the end of its path. -/
theorem readFile_put (h : t.replaceable path = .ok place) (content : List UInt8) :
    (t.put place (.file content)).locate path = .ok place ∧
      (t.put place (.file content)).readFile path = .ok content := by
  obtain ⟨before, name, directory, hends, hfault, hfollow, hdirectory, hshort, rfl, hfree⟩ :=
    replaceable_ok h
  have hput := node?_put_of_ne hfree (.file content)
  -- the new file stands where no directory was, so the way to it is still there
  have hdirectories : ∀ x, t.node? x = some .directory →
      (t.put (directory.down name) (.file content)).node? x = some .directory := by
    intro x hx
    rw [hput, if_neg, hx]
    rintro rfl
    exact hfree hx
  have hthere : ∀ x, (t.put (directory.down name) (.file content)).node? x = none →
      t.node? x = none := by
    intro x hx
    rw [hput] at hx
    split at hx
    · contradiction
    · exact hx
  -- what is asked of a path beside the nodes on it is the same as before
  have hfollow' : (t.put (directory.down name) (.file content)).follow (t.start path)
      (before.map .ofComponent) = .ok directory :=
    follow_of_remains (nameLimit_put _ _ _) hdirectories hthere hfollow
  exact readFile_eq (t := t.put (directory.down name) (.file content)) hends hfault hshort hfollow'
    (hdirectories _ hdirectory) ((hput _).trans (if_pos rfl))

theorem MoreDirectories.withFile (h : MoreDirectories t among t')
    (hreplace : t'.replaceable path = .ok place) (content : List UInt8) :
    WithFile t among path content place (t'.put place (.file content)) := by
  obtain ⟨-, -, -, -, -, -, -, -, -, hfree⟩ := replaceable_ok hreplace
  have hput := node?_put_of_ne hfree (.file content)
  obtain ⟨hlocated, hread⟩ := readFile_put hreplace content
  refine ⟨h.toAlike.trans (alike_put _ _ _), hlocated, hread, ?_, ?_, fun x hx => ?_⟩
  · rw [hput, if_pos rfl]
  · -- what stood there before stands there yet, or nothing did
    rcases h.node place with hsame | ⟨hnone, -⟩
    · rwa [← hsame]
    · exact ne_directory_of_eq_none hnone
  · rw [hput, if_neg hx]
    exact h.node x

end Tree

namespace DirectoryArea

/-! ### Disks -/

/-- **A disk**: an output area whose streams are those into a directory, as one can `view` them. It
does what a directory does, or fails, and then no more has happened than on the way there. -/
structure IsDisk {τ : Type} (disk : OutputArea DirectoryArea τ) (view : τ → DirectoryStream) :
    Prop where
  opens : ∀ name area stream, disk.openStream name area = .ok stream →
    openStream name area = .ok (view stream)
  /-- Directories cannot be made, or the temporary file cannot. -/
  refuses : ∀ name area refusal, disk.openStream name area = .error refusal →
    openStream name area = .error refusal ∨
      ∃ stream, openStream name area = .ok stream ∧ refusal.2 = discard stream
  /-- Some bytes are taken from the front, and when writing fails, something may have been written
  nevertheless. -/
  write : ∀ bytes stream, bytes ≠ [] →
    match disk.write bytes stream with
    | .accepted count next => view next = OutputArea.taken accept (bytes.take count) (view stream)
    | .interrupted next => view next = view stream
    | .failed _ next => ∃ part, view next = OutputArea.taken accept part (view stream)
  flush : ∀ stream, view (disk.flush stream).2 = view stream
  /-- The temporary file takes the place of its target, or is thrown away. -/
  commit : ∀ stream, disk.commit stream = commit (view stream) ∨
    ∃ fault, disk.commit stream = (some fault, discard (view stream))
  discard : ∀ stream, disk.discard stream = discard (view stream)

theorem isDisk_output : IsDisk output id where
  opens _ _ _ h := h
  refuses _ _ _ h := Or.inl h
  write bytes stream hne := by
    change accept bytes stream = OutputArea.taken accept (bytes.take bytes.length) stream
    unfold OutputArea.taken
    rw [List.take_length, if_neg (mt List.isEmpty_iff.1 hne)]
  flush _ := rfl
  commit _ := Or.inl rfl
  discard _ := rfl

/-- A directory on a disk that is full: no file takes anything. -/
def fullDisk : OutputArea DirectoryArea DirectoryStream :=
  { output with
    write := fun _ stream => .failed ⟨.other, some "no space left on device"⟩ stream
    patience_lt := fun _ _ _ h => nomatch h }

theorem isDisk_fullDisk : IsDisk fullDisk id where
  opens _ _ _ h := h
  refuses _ _ _ h := Or.inl h
  write _ _ _ := ⟨[], rfl⟩
  flush _ := rfl
  commit _ := Or.inl rfl
  discard _ := rfl

variable {τ : Type} {disk : OutputArea DirectoryArea τ} {view : τ → DirectoryStream}
  {area : DirectoryArea} {directory : Location} {path : String}

namespace IsDisk

/-- **What is written to a stream is held by it**, all of it unless writing fails. -/
theorem writeAll (h : IsDisk disk view) (bytes : List UInt8) (stream : τ) {held : List UInt8}
    (hstream : Holding area directory path held (view stream)) :
    ∃ content, Holding area directory path content (view (disk.writeAll bytes stream).2) ∧
      ((disk.writeAll bytes stream).1 = none → content = held ++ bytes) := by
  -- the induction is that of the loop: fewer bytes, or the same ones for a less patient stream
  induction bytes, stream using OutputArea.writeAll.induct disk generalizing held with
  | case1 stream =>
    rw [OutputArea.writeAll]
    exact ⟨held, hstream, fun _ => (List.append_nil held).symm⟩
  | case2 stream first rest next hreply =>
    have hview := h.write (first :: rest) stream (List.cons_ne_nil _ _)
    rw [hreply] at hview
    rw [OutputArea.writeAll_cons, hreply]
    refine ⟨held ++ [], ?_, fun hnone => absurd hnone (Option.some_ne_none _)⟩
    rw [hview]
    exact hstream.taken []
  -- the bytes that were taken and those that are left are the bytes of this turn
  | case3 stream first rest count next hreply ih =>
    have hview := h.write (first :: rest) stream (List.cons_ne_nil _ _)
    rw [hreply] at hview
    have hnext := hstream.taken ((first :: rest).take (count + 1))
    rw [← hview] at hnext
    rw [OutputArea.writeAll_cons, hreply]
    obtain ⟨content, hcontent, hall⟩ := ih hnext
    refine ⟨content, hcontent, fun hnone => ?_⟩
    rw [hall hnone, List.append_assoc]
    exact congrArg (held ++ ·) (List.take_append_drop (count + 1) (first :: rest))
  | case4 stream first rest next hreply hless ih =>
    have hview := h.write (first :: rest) stream (List.cons_ne_nil _ _)
    rw [hreply] at hview
    rw [OutputArea.writeAll_cons, hreply]
    rw [← hview] at hstream
    exact ih hstream
  | case5 stream first rest fault next hreply =>
    have hview := h.write (first :: rest) stream (List.cons_ne_nil _ _)
    rw [hreply] at hview
    obtain ⟨part, hpart⟩ := hview
    rw [OutputArea.writeAll_cons, hreply]
    refine ⟨held ++ part, ?_, fun hnone => absurd hnone (Option.some_ne_none _)⟩
    rw [hpart]
    exact hstream.taken part

end IsDisk

/-! ### Outcomes -/

/-- **What may come of writing an artifact into a directory.** -/
inductive Outcome (area : DirectoryArea) (artifact : Artifact) :
    Except WriteError Unit → DirectoryArea → Prop
  /-- The name has no path, and nothing is done. -/
  | refused {fault : Fault} (hpath : pathFor area.root area.extension artifact.name = .error fault) :
      Outcome area artifact (.error ⟨artifact.name, fault⟩) area
  /-- Nothing is written, but directories on the way to the file may have been made. -/
  | failed {path : String} {fault : Fault} {tree : Tree}
      (hpath : pathFor area.root area.extension artifact.name = .ok path)
      (hmore : area.tree.MoreDirectories (area.tree.IsOnWay path) tree) :
      Outcome area artifact (.error ⟨artifact.name, fault⟩) { area with tree }
  | written {path : String} {place : Location} {tree : Tree}
      (hpath : pathFor area.root area.extension artifact.name = .ok path)
      (hfile : area.tree.WithFile (area.tree.IsOnWay path) path (Text.bytesOf artifact.content)
        place tree) :
      Outcome area artifact (.ok ()) { area with tree }

section

variable {artifact : Artifact} {made : Tree} {stream : DirectoryStream} {content : List UInt8}
  (hpath : pathFor area.root area.extension artifact.name = .ok path)
  (hmade : area.tree.MoreDirectories (area.tree.IsOnWay path) made)
  (hstream : Holding { area with tree := made } directory path content stream)

include hpath hmade hstream

/-- A stream that is thrown away leaves the directories that were made for it. -/
theorem outcome_discard (fault : Fault) :
    Outcome area artifact (OutputArea.resultOf artifact.name (some fault)) (discard stream) := by
  obtain ⟨tree, hdiscard, halike, hnode⟩ := hstream.exists_discard
  rw [hdiscard]
  exact .failed hpath (hmade.trans ⟨halike, fun x => Or.inl (hnode x)⟩)

/-- A stream that holds the whole text puts it in place when it is committed, or nothing. -/
theorem outcome_commit (hcontent : content = Text.bytesOf artifact.content) :
    Outcome area artifact (OutputArea.resultOf artifact.name (commit stream).1)
      (commit stream).2 := by
  obtain ⟨tree, halike, hnode, hcommit⟩ := hstream.exists_commit
  have hmore : area.tree.MoreDirectories (area.tree.IsOnWay path) tree :=
    hmade.trans ⟨halike, fun x => Or.inl (hnode x)⟩
  rw [hcommit, hcontent]
  cases hreplace : tree.replaceable path with
  | error kind => exact .failed hpath hmore
  | ok place => exact .written hpath (hmore.withFile hreplace _)

end

namespace IsDisk

/-- Nothing is written where no stream is opened. -/
theorem outcome_of_refused (h : IsDisk disk view) {artifact : Artifact}
    {refusal : Fault × DirectoryArea}
    (hrefused : disk.openStream artifact.name area = .error refusal) :
    Outcome area artifact (.error ⟨artifact.name, refusal.1⟩) refusal.2 := by
  rcases h.refuses _ _ _ hrefused with hrefused | ⟨stream, hopen, hfinal⟩
  · -- the name is refused, or the way to the file cannot be made
    rcases openStream_error hrefused with ⟨hpath, hfinal⟩ | ⟨path, made, hpath, hmade, hfinal⟩
    · rw [hfinal]
      exact .refused hpath
    · rw [hfinal]
      exact .failed hpath hmade
  · -- the directories are made, but the temporary file is not
    obtain ⟨path, made, directory, hpath, hmade, rfl⟩ := openStream_ok hopen
    rw [hfinal]
    exact outcome_discard hpath hmade (holding_freshStream _ directory path) refusal.1

/-- **Writing an artifact to a disk** has one of the outcomes, wherever it ends. -/
theorem outcome (h : IsDisk disk view) (area : DirectoryArea) (artifact : Artifact) :
    Outcome area artifact (disk.publish artifact area).1 (disk.publish artifact area).2 := by
  -- one case for each call that can fail, in the order of the calls
  cases hopen : disk.openStream artifact.name area with
  | error refusal =>
    rw [OutputArea.publish_of_refused hopen]
    exact h.outcome_of_refused hopen
  | ok stream =>
    obtain ⟨path, made, directory, hpath, hmade, hfresh⟩ := openStream_ok (h.opens _ _ _ hopen)
    have hstream : Holding { area with tree := made } directory path [] (view stream) := by
      rw [hfresh]
      exact holding_freshStream _ directory path
    obtain ⟨content, hwritten, hall⟩ := h.writeAll (Text.bytesOf artifact.content) stream hstream
    rcases hwrite : disk.writeAll (Text.bytesOf artifact.content) stream with ⟨_ | fault, written⟩
    · rw [hwrite] at hwritten hall
      have hflushed := h.flush written
      rcases hflush : disk.flush written with ⟨_ | fault, flushed⟩
      · -- the bytes are all in the temporary file, which now takes the place of the file or is
        -- removed
        rw [hflush] at hflushed
        rw [← hflushed] at hwritten
        rcases hcommit : disk.commit flushed with ⟨fault?, final⟩
        rw [OutputArea.publish_of_flushed hopen hwrite hflush hcommit]
        rcases h.commit flushed with heq | ⟨fault, heq⟩ <;> rw [hcommit] at heq
        · have houtcome := outcome_commit hpath hmade hwritten (hall rfl)
          rwa [← heq] at houtcome
        · obtain ⟨rfl, rfl⟩ := Prod.mk.inj heq
          exact outcome_discard hpath hmade hwritten fault
      · rw [hflush] at hflushed
        rw [← hflushed] at hwritten
        rw [OutputArea.publish_of_unflushed hopen hwrite hflush, h.discard]
        exact outcome_discard hpath hmade hwritten fault
    · rw [hwrite] at hwritten
      rw [OutputArea.publish_of_broken hopen hwrite, h.discard]
      exact outcome_discard hpath hmade hwritten fault

end IsDisk

/-- **Writing an artifact into a directory is all or nothing.** It has one of the outcomes: nothing
is done, nothing but directories on the way is added, or the text is at the path of the name and
every other file is as it was. So it is on any disk, whenever that fails. And it is written where the
root is there and nothing is in the way. -/
theorem publish_outcome (area : DirectoryArea) (artifact : Artifact) :
    Outcome area artifact (output.publish artifact area).1 (output.publish artifact area).2 ∧
    (∀ {τ : Type} {disk : OutputArea DirectoryArea τ} {view : τ → DirectoryStream},
      IsDisk disk view →
        Outcome area artifact (disk.publish artifact area).1 (disk.publish artifact area).2) ∧
    ∀ place, area.LeadsTo place → IsSafeName artifact.name →
      (∀ x ∈ place.along (directoryNames artifact.name),
        area.tree.node? x = none ∨ area.tree.node? x = some .directory) →
      area.tree.node? (filePlace area.extension place artifact.name) ≠ some .directory →
        (output.publish artifact area).1 = .ok () := by
  refine ⟨isDisk_output.outcome area artifact, fun h => h.outcome area artifact, ?_⟩
  -- the area has a root and no limits, so no call can fail
  intro place hleads hsafe hway hfile
  obtain ⟨tree, hpublish, -⟩ := hleads.publish hsafe hway hfile
  exact congrArg Prod.fst hpublish

/-- A file is in the place of the root on a full disk, and an empty tree takes the class. -/
theorem publish_outcome_fullDisk :
    IsDisk fullDisk id ∧
      Outcome { root := "out", tree := { nodes := [(.ofNames ["out"], .file [])] } }
        ⟨"a.B", "class B {}"⟩
        (fullDisk.publish ⟨"a.B", "class B {}"⟩
          { root := "out", tree := { nodes := [(.ofNames ["out"], .file [])] } }).1
        (fullDisk.publish ⟨"a.B", "class B {}"⟩
          { root := "out", tree := { nodes := [(.ofNames ["out"], .file [])] } }).2 ∧
      (output.publish ⟨"a.B", "class B {}"⟩
        { root := "", tree := { nameLimit := none, pathLimit := none } }).1 = .ok () := by
  refine ⟨isDisk_fullDisk, (publish_outcome _ _).2.1 isDisk_fullDisk, ?_⟩
  have hleads : LeadsTo { root := "", tree := { nameLimit := none, pathLimit := none } } .root :=
    ⟨rfl, rfl, by decide, by decide, by decide +kernel, by decide⟩
  refine (publish_outcome _ _).2.2 .root hleads ?_ ?_ ?_
  · decide +kernel
  · decide +kernel
  · decide +kernel

end DirectoryArea

end Stencil
