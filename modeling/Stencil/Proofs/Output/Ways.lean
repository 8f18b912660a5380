import Stencil.Proofs.Output.Directory

/-!
# The ways of paths

A path without links leads to the place that its steps say (`Location.walk`), if it leads anywhere,
whatever is there (`Tree.eq_walk_of_follow`). What is made on the way to a file are directories at
places that the steps pass, and nothing else changes, also where it fails half-way
(`Tree.moreDirectories_makeDirectories`). So when a stream is opened, or is not, this is all that has
become of the tree (`DirectoryArea.openStream_ok`, `DirectoryArea.openStream_error`).
-/

namespace Stencil

/-! ### Where steps lead -/

namespace Location

/-- The place to which a step leads. -/
def step (place : Location) : PathStep → Location
  | .stay => place
  | .up => place.up
  | .down name => place.down name

/-- The place to which steps lead, wherever there is something. -/
def walk (place : Location) (steps : List PathStep) : Location :=
  steps.foldl step place

theorem walk_append (place : Location) (steps rest : List PathStep) :
    place.walk (steps ++ rest) = (place.walk steps).walk rest :=
  List.foldl_append

theorem walk_down (place : Location) (names : List String) :
    place.walk (names.map .down) = place.downAll names := by
  unfold walk downAll
  rw [List.foldl_map]
  rfl

/-- Steps that lead nowhere may be left out. -/
theorem walk_filter (place : Location) (steps : List PathStep) :
    place.walk (steps.filter (· ≠ .stay)) = place.walk steps := by
  induction steps generalizing place with
  | nil => rfl
  | cons first rest ih =>
    by_cases hstay : first = .stay
    · rw [List.filter_cons_of_neg (by simpa using hstay), hstay]
      exact ih place
    · rw [List.filter_cons_of_pos (by simpa using hstay)]
      exact ih (place.step first)

/-- **Steps pass a place** if some of them lead there, from the first one on. -/
def Passes (place : Location) (steps : List PathStep) (x : Location) : Prop :=
  ∃ front, front <+: steps ∧ x = place.walk front

variable {place x : Location} {steps more : List PathStep}

theorem passes_first (place : Location) (first : PathStep) (rest : List PathStep) :
    place.Passes (first :: rest) (place.step first) :=
  ⟨[first], ⟨rest, rfl⟩, rfl⟩

theorem Passes.cons {first : PathStep} (h : (place.step first).Passes steps x) :
    place.Passes (first :: steps) x := by
  obtain ⟨front, hfront, hx⟩ := h
  exact ⟨first :: front, (List.prefix_cons_inj first).2 hfront, hx⟩

theorem Passes.mono (h : place.Passes steps x) (hsteps : steps <+: more) :
    place.Passes more x := by
  obtain ⟨front, hfront, hx⟩ := h
  exact ⟨front, hfront.trans hsteps, hx⟩

theorem Passes.of_filter (h : place.Passes (steps.filter (· ≠ .stay)) x) :
    place.Passes steps x := by
  obtain ⟨front, hfront, hx⟩ := h
  obtain ⟨whole, hwhole, rfl⟩ := List.prefix_filter_iff.1 hfront
  exact ⟨whole, hwhole, hx.trans (walk_filter place whole)⟩

end Location

namespace Tree

variable {t : Tree} {place last x : Location}

/-- The place to which a path leads, if it leads anywhere. -/
def placeOf (t : Tree) (path : String) : Location :=
  (t.start path).walk (pathSteps path)

theorem placeOf_congr {t' : Tree} (h : t'.home = t.home) (path : String) :
    t'.placeOf path = t.placeOf path := by
  unfold placeOf start
  rw [h]

/-- **A path that is there leads where its steps do.** -/
theorem eq_walk_of_follow {steps : List PathStep} (h : t.follow place steps = .ok last) :
    last = place.walk steps := by
  induction steps generalizing place with
  | nil => exact (Except.ok.inj h).symm
  | cons step rest ih =>
    obtain ⟨-, ⟨rfl, hrest⟩ | ⟨rfl, hrest⟩ | ⟨name, rfl, -, -, hrest⟩⟩ := follow_cons_ok h
    · exact ih hrest
    · exact ih hrest
    · exact ih hrest

theorem eq_placeOf_of_locate {path : String} (h : t.locate path = .ok place) :
    place = t.placeOf path := by
  unfold locate at h
  split at h
  · contradiction
  split at h
  · contradiction
  exact eq_walk_of_follow h

/-- What is at the end of a path is looked for in a directory that is there. -/
theorem locateEnd_ok {path : String} {last : PathStep} (h : t.locateEnd path = .ok (place, last)) :
    ∃ before component, splitEnd path = (before, component) ∧ last = .ofComponent component ∧
      t.pathFault? path = none ∧
      t.follow (t.start path) (before.map .ofComponent) = .ok place ∧
      t.node? place = some .directory := by
  -- each check that fails ends the reading, so all of them hold of what is found
  unfold locateEnd at h
  cases hfault : t.pathFault? path with
  | some kind =>
    rw [hfault] at h
    contradiction
  | none =>
    rw [hfault] at h
    obtain ⟨directory, hfollow, h⟩ := bind_ok h
    dsimp only at h
    split at h
    · contradiction
    next hdirectory =>
    obtain ⟨rfl, rfl⟩ := Prod.mk.inj (Except.ok.inj h)
    exact ⟨_, _, rfl, rfl, rfl, hfollow, Classical.not_not.1 hdirectory⟩

/-- **A file is moved** to the place at the end of a path that ends in a name, if the directory of
the path is there, and never onto a directory. -/
theorem replaceable_ok {path : String} (h : t.replaceable path = .ok place) :
    ∃ before name directory, EndsIn path before name ∧ t.pathFault? path = none ∧
      t.follow (t.start path) (before.map .ofComponent) = .ok directory ∧
      t.node? directory = some .directory ∧ t.isTooLong name = false ∧
      place = directory.down name ∧ t.node? place ≠ some .directory := by
  unfold replaceable at h
  obtain ⟨⟨directory, last⟩, hend, h⟩ := bind_ok h
  obtain ⟨before, component, hsplit, hlast, hfault, hfollow, hdirectory⟩ := locateEnd_ok hend
  -- only a name can be replaced, and neither the place itself nor the one above it
  cases last with
  | stay => contradiction
  | up => contradiction
  | down name =>
    dsimp only at h
    split at h
    · contradiction
    next hshort =>
    split at h
    · contradiction
    next hslash =>
    split at h
    · contradiction
    next hfile =>
    cases h
    have hends : EndsIn path before name :=
      endsIn_of_splitEnd (Bool.eq_false_iff.2 hslash) hsplit hlast.symm
    exact ⟨_, _, _, hends, hfault, hfollow, hdirectory, Bool.eq_false_iff.2 hshort, rfl, hfile⟩

/-! ### Directories that are made -/

/-- **A tree with more directories**: wherever it is not like another one, it has a directory in
which nothing was, and which is one of some places. -/
structure MoreDirectories (t : Tree) (among : Location → Prop) (t' : Tree) : Prop extends
    Alike t t' where
  node : ∀ x, t'.node? x = t.node? x ∨
    t.node? x = none ∧ t'.node? x = some .directory ∧ among x

namespace MoreDirectories

variable {t' t'' : Tree} {among among' : Location → Prop}

theorem refl (t : Tree) (among : Location → Prop) : MoreDirectories t among t :=
  ⟨.refl t, fun _ => Or.inl rfl⟩

theorem trans (h : MoreDirectories t among t') (h' : MoreDirectories t' among t'') :
    MoreDirectories t among t'' := by
  refine ⟨h.toAlike.trans h'.toAlike, fun x => ?_⟩
  rcases h.node x with hsame | ⟨hnone, hdirectory, hx⟩
  · rw [← hsame]
    exact h'.node x
  · -- what has been made is no place where nothing is
    have hsame' : t''.node? x = t'.node? x := by
      refine (h'.node x).resolve_right fun hnew => ?_
      rw [hdirectory] at hnew
      exact nomatch hnew.1
    exact Or.inr ⟨hnone, hsame'.trans hdirectory, hx⟩

theorem mono (h : MoreDirectories t among t') (hamong : ∀ x, among x → among' x) :
    MoreDirectories t among' t' :=
  ⟨h.toAlike, fun x => (h.node x).imp_right fun hnew => ⟨hnew.1, hnew.2.1, hamong x hnew.2.2⟩⟩

theorem put (hnone : t.node? place = none) (hplace : among place) :
    MoreDirectories t among (t.put place .directory) := by
  refine ⟨alike_put t place .directory, fun x => ?_⟩
  rw [node?_put_of_ne (ne_directory_of_eq_none hnone)]
  by_cases hx : x = place
  · rw [if_pos hx, hx]
    exact Or.inr ⟨hnone, rfl, hplace⟩
  · rw [if_neg hx]
    exact Or.inl rfl

end MoreDirectories

/-- **Making directories** makes just some that the steps pass, also where it fails half-way. -/
theorem moreDirectories_makeFrom (made : Bool) (place : Location) (steps : List PathStep)
    (t : Tree) : MoreDirectories t (place.Passes steps) (t.makeFrom made place steps).2 := by
  -- only a step down to where there is nothing changes the tree on the way
  induction steps generalizing made place t with
  | nil => exact .refl t _
  | cons step rest ih =>
    have hrest : ∀ (made : Bool) (t : Tree), MoreDirectories t (place.Passes (step :: rest))
        (t.makeFrom made (place.step step) rest).2 :=
      fun made t => (ih made (place.step step) t).mono fun _ => Location.Passes.cons
    cases step with
    | stay => exact hrest made t
    | up => exact hrest made t
    | down name =>
      rw [makeFrom]
      split
      · exact .refl t _
      split
      · next hnone =>
        exact (MoreDirectories.put hnone (Location.passes_first place _ rest)).trans (hrest true _)
      · exact hrest made t
      · exact .refl t _

/-- Making the directories of a path makes just some that the path passes. -/
theorem moreDirectories_makeDirectories (path : String) (t : Tree) :
    MoreDirectories t ((t.start path).Passes (pathSteps path)) (t.makeDirectories path).2 := by
  unfold makeDirectories
  split
  · exact .refl t _
  split
  · exact .refl t _
  split
  · -- a dot at the end is looked for behind the directories that are made
    split
    · have hmade := (moreDirectories_makeFrom false (t.start path) (movingSteps path).dropLast
        t).mono fun x hx => (hx.mono (List.dropLast_prefix _)).of_filter
      split
      · next heq => rwa [heq] at hmade
      · next heq => rwa [heq] at hmade
    · exact .refl t _
  · exact (moreDirectories_makeFrom false (t.start path) (movingSteps path) t).mono fun x hx =>
      hx.of_filter

/-- A place that is passed on the way to the file at the end of a path. -/
def IsOnWay (t : Tree) (path : String) (x : Location) : Prop :=
  (t.start (directoryOf path)).Passes (pathSteps (directoryOf path)) x

end Tree

namespace DirectoryArea

variable {area : DirectoryArea}

/-- The place to which the root of an area leads. -/
def place (area : DirectoryArea) : Location :=
  area.tree.placeOf area.root

theorem place_eq (area : DirectoryArea) :
    area.place =
      (area.tree.start area.root).walk ((rootComponents area.root).map .ofComponent) := by
  unfold place Tree.placeOf
  rcases pathSteps_eq_or area.root with heq | heq <;> rw [heq]
  -- the last step stays where it is
  rw [Location.walk_append]
  rfl

/-- The path of a safe name leads to the place of its file. -/
theorem walk_filePath {name : String} (hsafe : IsSafeName name) :
    (area.tree.start area.root).walk
        ((rootComponents area.root ++ directoryNames name).map .ofComponent) =
      area.place.downAll (directoryNames name) := by
  rw [List.map_append, Location.walk_append, ← place_eq, map_directoryNames hsafe,
    Location.walk_down]

/-- **A stream that is not opened** has no path, or what has been made of the way to its file
remains. -/
theorem openStream_error {name : String} {refusal : Fault × DirectoryArea}
    (h : openStream name area = .error refusal) :
    (pathFor area.root area.extension name = .error refusal.1 ∧ refusal.2 = area) ∨
    ∃ path made, pathFor area.root area.extension name = .ok path ∧
      area.tree.MoreDirectories (area.tree.IsOnWay path) made ∧
      refusal.2 = { area with tree := made } := by
  unfold openStream at h
  cases hpath : pathFor area.root area.extension name with
  | error fault =>
    rw [hpath] at h
    obtain rfl := Except.error.inj h
    -- the name is refused before the tree is touched
    exact Or.inl ⟨rfl, rfl⟩
  | ok path =>
    have hmade := Tree.moreDirectories_makeDirectories (directoryOf path) area.tree
    rw [hpath] at h
    dsimp only at h
    rcases hmake : area.tree.makeDirectories (directoryOf path) with ⟨kind | directory, made⟩
    · rw [hmake] at h hmade
      -- what was made on the way stays there, though the stream is not opened
      obtain rfl := Except.error.inj h
      exact Or.inr ⟨path, made, rfl, hmade, rfl⟩
    · rw [hmake] at h
      contradiction

/-- **A stream that is opened** is a fresh one, once the directories on the way to its file are
made. -/
theorem openStream_ok {name : String} {stream : DirectoryStream}
    (h : openStream name area = .ok stream) :
    ∃ path made directory, pathFor area.root area.extension name = .ok path ∧
      area.tree.MoreDirectories (area.tree.IsOnWay path) made ∧
      stream = freshStream { area with tree := made } directory path := by
  unfold openStream at h
  cases hpath : pathFor area.root area.extension name with
  | error fault =>
    rw [hpath] at h
    contradiction
  | ok path =>
    have hmade := Tree.moreDirectories_makeDirectories (directoryOf path) area.tree
    rw [hpath] at h
    dsimp only at h
    rcases hmake : area.tree.makeDirectories (directoryOf path) with ⟨kind | directory, made⟩
    · rw [hmake] at h
      contradiction
    · rw [hmake] at h hmade
      exact ⟨path, made, directory, rfl, hmade, (Except.ok.inj h).symm⟩

end DirectoryArea

end Stencil
