import Stencil.Output.Tree

/-!
# Directories that are there and directories that are made

Names lead down from a place along other places (`Location.along`). Where no file is in the way,
making the directories of a path makes those places, and nothing else changes (`makeFrom_down`); a
path that is there is gone along as it is (`makeFrom_of_follow`), and stays there in every tree that
`Extends` the first. A fresh name is the name of nothing (`node?_freshName`).
-/

namespace Stencil

/-! ### Places below a place -/

namespace Location

/-- The place that names lead to from another place, in their order. -/
def downAll (place : Location) (names : List String) : Location :=
  names.foldl down place

/-- The places through which names lead down from another place, with the one to which they lead. -/
def along (place : Location) : List String → List Location
  | [] => []
  | name :: rest => place.down name :: (place.down name).along rest

@[simp] theorem downAll_nil (place : Location) : place.downAll [] = place := rfl

@[simp] theorem downAll_cons (place : Location) (name : String) (rest : List String) :
    place.downAll (name :: rest) = (place.down name).downAll rest := rfl

theorem downAll_concat (place : Location) (names : List String) (name : String) :
    place.downAll (names ++ [name]) = (place.downAll names).down name := by
  unfold downAll
  rw [List.foldl_append, List.foldl_cons, List.foldl_nil]

theorem names_downAll (place : Location) (names : List String) :
    (place.downAll names).names = names.reverse ++ place.names := by
  induction names generalizing place with
  | nil => rfl
  | cons name rest ih =>
    rw [downAll_cons, ih, names_down, List.reverse_cons, List.append_assoc, List.singleton_append]

theorem downAll_inj {place : Location} {a b : List String} :
    place.downAll a = place.downAll b ↔ a = b := by
  refine ⟨fun h => ?_, congrArg place.downAll⟩
  have hnames := congrArg Location.names h
  rw [names_downAll, names_downAll] at hnames
  exact List.reverse_inj.1 (List.append_cancel_right hnames)

theorem isAbove_iff {above place : Location} :
    above.isAbove place = true ↔ ∃ names, place = above.downAll names := by
  unfold isAbove namesTo?
  dsimp only
  -- the names of a place end in those of a place above it, so what is in front of them leads down
  constructor
  · intro h
    split at h
    · next hdrop =>
      refine ⟨(place.names.take (place.depth - above.depth)).reverse, ext_names ?_⟩
      rw [names_downAll, List.reverse_reverse, ← hdrop, List.take_append_drop]
    · contradiction
  · rintro ⟨names, rfl⟩
    have hdepth : (above.downAll names).depth - above.depth = names.reverse.length := by
      rw [← (above.downAll names).length_names, names_downAll, List.length_append,
        above.length_names, Nat.add_sub_cancel]
    rw [hdepth, names_downAll, List.drop_left, if_pos rfl]
    rfl

/-- A place at or above another to which names lead as well is reached by the first of them. -/
theorem prefix_of_isAbove {place : Location} {names others : List String}
    (h : (place.downAll names).isAbove (place.downAll others) = true) : names <+: others := by
  obtain ⟨more, hmore⟩ := isAbove_iff.1 h
  have hdown : place.downAll others = place.downAll (names ++ more) := by
    rw [hmore]
    exact List.foldl_append.symm
  exact ⟨more, (downAll_inj.1 hdown).symm⟩

theorem mem_along {place other : Location} {names : List String} :
    other ∈ place.along names ↔
      ∃ front, front ≠ [] ∧ front <+: names ∧ other = place.downAll front := by
  induction names generalizing place with
  | nil =>
    refine iff_of_false List.not_mem_nil ?_
    rintro ⟨front, hne, hfront, -⟩
    exact hne (List.prefix_nil.1 hfront)
  | cons name rest ih =>
    rw [along, List.mem_cons, ih]
    constructor
    · rintro (rfl | ⟨front, -, hfront, rfl⟩)
      · exact ⟨[name], List.cons_ne_nil _ _, ⟨rest, rfl⟩, rfl⟩
      · exact ⟨name :: front, List.cons_ne_nil _ _, (List.prefix_cons_inj name).2 hfront, rfl⟩
    · -- the first of the places stands one name down, and all others stand below it
      rintro ⟨front, hne, hfront, rfl⟩
      obtain ⟨first, others, rfl⟩ := List.exists_cons_of_ne_nil hne
      obtain ⟨rfl, hothers⟩ := List.cons_prefix_cons.1 hfront
      by_cases hlast : others = []
      · rw [hlast]
        exact Or.inl rfl
      · exact Or.inr ⟨others, hlast, hothers, rfl⟩

end Location

namespace Tree

variable {t t' : Tree}

/-! ### What stands at a place -/

theorem isAbove_home_eq_false {place : Location} (h : t.node? place ≠ some .directory) :
    place.isAbove t.home = false := by
  rw [Bool.eq_false_iff]
  intro habove
  unfold node? at h
  rw [if_pos habove] at h
  exact h rfl

theorem ne_directory_of_eq_none {place : Location} (h : t.node? place = none) :
    t.node? place ≠ some .directory := by
  rw [h]
  exact fun hdirectory => by contradiction

theorem node?_put_of_ne {place : Location} (h : t.node? place ≠ some .directory) (node : Node)
    (other : Location) :
    (t.put place node).node? other = if other = place then some node else t.node? other := by
  by_cases habove : other.isAbove t.home = true
  · -- what is above home is a directory, and so is not what is put
    have hne : other ≠ place := by
      rintro rfl
      rw [isAbove_home_eq_false h] at habove
      contradiction
    rw [if_neg hne]
    unfold node?
    rw [home_put, if_pos habove, if_pos habove]
  · exact node?_put (Bool.eq_false_iff.2 habove)

theorem node?_remove_of_ne {place : Location} (h : t.node? place ≠ some .directory)
    (other : Location) :
    (t.remove place).node? other = if other = place then none else t.node? other := by
  by_cases habove : other.isAbove t.home = true
  · have hne : other ≠ place := by
      rintro rfl
      rw [isAbove_home_eq_false h] at habove
      contradiction
    rw [if_neg hne]
    unfold node?
    rw [home_remove, if_pos habove, if_pos habove]
  · exact node?_remove (Bool.eq_false_iff.2 habove)

/-! ### Trees with more in them -/

/-- Trees with the same home and the same limits. -/
structure Alike (t t' : Tree) : Prop where
  home : t'.home = t.home
  nameLimit : t'.nameLimit = t.nameLimit
  pathLimit : t'.pathLimit = t.pathLimit

theorem Alike.refl (t : Tree) : Alike t t :=
  ⟨rfl, rfl, rfl⟩

theorem Alike.trans {t'' : Tree} (h : Alike t t') (h' : Alike t' t'') : Alike t t'' :=
  ⟨h'.home.trans h.home, h'.nameLimit.trans h.nameLimit, h'.pathLimit.trans h.pathLimit⟩

theorem Alike.symm (h : Alike t t') : Alike t' t :=
  ⟨h.home.symm, h.nameLimit.symm, h.pathLimit.symm⟩

theorem Alike.start_eq (h : Alike t t') (path : String) : t'.start path = t.start path := by
  unfold start
  rw [h.home]

theorem Alike.isTooLong_eq (h : Alike t t') (name : String) :
    t'.isTooLong name = t.isTooLong name := by
  unfold isTooLong
  rw [h.nameLimit]

theorem alike_put (t : Tree) (place : Location) (node : Node) : Alike t (t.put place node) :=
  ⟨t.home_put place node, t.nameLimit_put place node, t.pathLimit_put place node⟩

theorem alike_remove (t : Tree) (place : Location) : Alike t (t.remove place) :=
  ⟨t.home_remove place, t.nameLimit_remove place, t.pathLimit_remove place⟩

/-- **A tree extends another** if everything that stands in that one stands in it too. -/
structure Extends (t t' : Tree) : Prop extends Alike t t' where
  node : ∀ place node, t.node? place = some node → t'.node? place = some node

theorem Extends.refl (t : Tree) : Extends t t :=
  ⟨.refl t, fun _ _ h => h⟩

theorem Extends.trans {t'' : Tree} (h : Extends t t') (h' : Extends t' t'') : Extends t t'' :=
  ⟨h.toAlike.trans h'.toAlike, fun place node hnode => h'.node place node (h.node place node hnode)⟩

theorem Extends.put {place : Location} (h : t.node? place = none) (node : Node) :
    Extends t (t.put place node) := by
  refine ⟨alike_put t place node, fun other n hn => ?_⟩
  have hne : other ≠ place := by
    rintro rfl
    rw [h] at hn
    contradiction
  rw [node?_put_of_ne (ne_directory_of_eq_none h), if_neg hne, hn]

/-! ### Paths that are there -/

/-- How a path can be gone along: from a directory, and down only to what is there. -/
theorem follow_cons_ok {place last : Location} {step : PathStep} {rest : List PathStep}
    (h : t.follow place (step :: rest) = .ok last) :
    t.node? place = some .directory ∧
      ((step = .stay ∧ t.follow place rest = .ok last) ∨
        (step = .up ∧ t.follow place.up rest = .ok last) ∨
        ∃ name, step = .down name ∧ t.isTooLong name = false ∧
          (∃ node, t.node? (place.down name) = some node) ∧
          t.follow (place.down name) rest = .ok last) := by
  unfold follow at h
  -- only a directory is searched
  split at h
  · contradiction
  next hdirectory =>
  refine ⟨Classical.not_not.1 hdirectory, ?_⟩
  cases step with
  | stay => exact Or.inl ⟨rfl, h⟩
  | up => exact Or.inr (Or.inl ⟨rfl, h⟩)
  | down name =>
    -- the name may be too long, and then there may be nothing under it
    dsimp only at h
    split at h
    · contradiction
    split at h
    · contradiction
    next hshort hthere =>
    rw [Option.isNone_iff_eq_none] at hthere
    exact Or.inr (Or.inr
      ⟨name, rfl, Bool.eq_false_iff.2 hshort, Option.ne_none_iff_exists'.1 hthere, h⟩)

section

variable {place : Location} (hplace : t.node? place = some .directory)

include hplace

theorem follow_stay (rest : List PathStep) :
    t.follow place (.stay :: rest) = t.follow place rest := by
  rw [follow.eq_def]
  exact if_neg fun hnot => hnot hplace

theorem follow_up (rest : List PathStep) :
    t.follow place (.up :: rest) = t.follow place.up rest := by
  rw [follow.eq_def]
  exact if_neg fun hnot => hnot hplace

theorem follow_down_eq (name : String) (rest : List PathStep) :
    t.follow place (.down name :: rest) =
      if t.isTooLong name then .error .invalidFilename
      else if (t.node? (place.down name)).isNone then .error .notFound
      else t.follow (place.down name) rest := by
  rw [follow.eq_def]
  exact if_neg fun hnot => hnot hplace

theorem follow_down {name : String} (hshort : t.isTooLong name = false) {node : Node}
    (hnode : t.node? (place.down name) = some node) (rest : List PathStep) :
    t.follow place (.down name :: rest) = t.follow (place.down name) rest := by
  rw [follow_down_eq hplace, hshort, hnode]
  rfl

end

/-- **A path that is there remains**, as long as directories remain and nothing goes away. -/
theorem follow_of_remains (hlimit : t'.nameLimit = t.nameLimit)
    (hdirectories : ∀ x, t.node? x = some .directory → t'.node? x = some .directory)
    (hthere : ∀ x, t'.node? x = none → t.node? x = none) {place last : Location}
    {steps : List PathStep} (hfollow : t.follow place steps = .ok last) :
    t'.follow place steps = .ok last := by
  induction steps generalizing place with
  | nil => exact hfollow
  | cons step rest ih =>
    obtain ⟨hplace, hstep⟩ := follow_cons_ok hfollow
    have hplace' := hdirectories _ hplace
    rcases hstep with ⟨rfl, hrest⟩ | ⟨rfl, hrest⟩ | ⟨name, rfl, hshort, ⟨node, hnode⟩, hrest⟩
    · -- what the step asks of the tree still holds of the other
      rw [follow_stay hplace']
      exact ih hrest
    · rw [follow_up hplace']
      exact ih hrest
    · -- what is under the name may be another node now, but it cannot be missing
      have hshort' : t'.isTooLong name = false := by
        unfold isTooLong at hshort ⊢
        rwa [hlimit]
      obtain ⟨node', hnode'⟩ : ∃ node', t'.node? (place.down name) = some node' := by
        refine Option.ne_none_iff_exists'.1 fun hnone => ?_
        rw [hthere _ hnone] at hnode
        contradiction
      rw [follow_down hplace' hshort' hnode']
      exact ih hrest

theorem Extends.follow (h : Extends t t') {place last : Location} {steps : List PathStep}
    (hfollow : t.follow place steps = .ok last) : t'.follow place steps = .ok last := by
  refine follow_of_remains h.nameLimit (fun x => h.node x _) (fun x hnone => ?_) hfollow
  rw [Option.eq_none_iff_forall_ne_some]
  intro node hnode
  rw [h.node x node hnode] at hnone
  contradiction

theorem follow_append (place : Location) (steps rest : List PathStep) :
    t.follow place (steps ++ rest) = t.follow place steps >>= (t.follow · rest) := by
  induction steps generalizing place with
  | nil => rfl
  | cons step steps ih =>
    rw [List.cons_append]
    by_cases hplace : t.node? place = some .directory
    · -- both paths take the same step, and fail together if it fails
      cases step with
      | stay =>
        rw [follow_stay hplace, follow_stay hplace]
        exact ih place
      | up =>
        rw [follow_up hplace, follow_up hplace]
        exact ih place.up
      | down name =>
        rw [follow_down_eq hplace, follow_down_eq hplace]
        split
        · rfl
        split
        · rfl
        exact ih (place.down name)
    · -- nothing leads on from here, with or without the rest
      rw [follow.eq_def, follow.eq_def t place (step :: steps)]
      dsimp only
      rw [if_pos hplace, if_pos hplace]
      rfl

theorem isTooLong_eq_false (h : t.nameLimit = none) (name : String) :
    t.isTooLong name = false := by
  unfold isTooLong
  rw [h]
  rfl

theorem follow_downAll {place : Location} {names : List String}
    (hshort : ∀ name ∈ names, t.isTooLong name = false)
    (hplace : t.node? place = some .directory)
    (halong : ∀ x ∈ place.along names, t.node? x = some .directory) :
    t.follow place (names.map .down) = .ok (place.downAll names) := by
  induction names generalizing place with
  | nil => rfl
  | cons name rest ih =>
    have hnext : t.node? (place.down name) = some .directory := halong _ List.mem_cons_self
    rw [List.map_cons, follow_down hplace (hshort name List.mem_cons_self) hnext]
    exact ih (fun n hn => hshort n (List.mem_cons_of_mem _ hn)) hnext
      fun x hx => halong x (List.mem_cons_of_mem _ hx)

/-! ### Directories that are made -/

/-- **A path that is there is gone along**, and nothing is made. -/
theorem makeFrom_of_follow {place last : Location} {steps : List PathStep}
    (hfollow : t.follow place steps = .ok last) (hlast : t.node? last = some .directory)
    (made : Bool) (rest : List PathStep) :
    makeFrom made place (steps.filter (· ≠ .stay) ++ rest) t = makeFrom made last rest t := by
  induction steps generalizing place with
  | nil =>
    rw [Except.ok.inj hfollow]
    rfl
  | cons step steps ih =>
    obtain ⟨hplace, hstep⟩ := follow_cons_ok hfollow
    rcases hstep with ⟨rfl, hrest⟩ | ⟨rfl, hrest⟩ | ⟨name, rfl, hshort, ⟨node, hnode⟩, hrest⟩
    · rw [List.filter_cons_of_neg (by decide)]
      exact ih hrest
    · rw [List.filter_cons_of_pos (by decide), List.cons_append, makeFrom]
      exact ih hrest
    · -- what is there is a directory, since the path goes on or ends there
      have hdirectory : t.node? (place.down name) = some .directory := by
        cases steps with
        | nil =>
          rw [Except.ok.inj hrest]
          exact hlast
        | cons next steps => exact (follow_cons_ok hrest).1
      rw [List.filter_cons_of_pos (by simp), List.cons_append, makeFrom, hshort, hdirectory]
      exact ih hrest

/-- **Directories are made** where nothing is, and nothing else changes. Further steps are made from
the last of them. -/
theorem makeFrom_down_append (made : Bool) {place : Location} {names : List String}
    (hshort : ∀ name ∈ names, t.isTooLong name = false)
    (halong : ∀ x ∈ place.along names, t.node? x = none ∨ t.node? x = some .directory) :
    ∃ t' made', (∀ steps, makeFrom made place (names.map .down ++ steps) t =
        makeFrom made' (place.downAll names) steps t') ∧
      Extends t t' ∧
      ∀ x, t'.node? x = if x ∈ place.along names then some .directory else t.node? x := by
  induction names generalizing t made place with
  | nil => exact ⟨t, made, fun _ => rfl, .refl t, fun x => (if_neg List.not_mem_nil).symm⟩
  | cons name rest ih =>
    have hname : t.isTooLong name = false := hshort name List.mem_cons_self
    have hnames : ∀ n ∈ rest, t.isTooLong n = false :=
      fun n hn => hshort n (List.mem_cons_of_mem _ hn)
    have hrest : ∀ x ∈ (place.down name).along rest,
        t.node? x = none ∨ t.node? x = some .directory :=
      fun x hx => halong x (List.mem_cons_of_mem _ hx)
    rcases halong _ List.mem_cons_self with hnone | hdirectory
    · -- a directory is missing here, and the path goes on in the tree that has it
      have hput : ∀ x, (t.put (place.down name) .directory).node? x =
          if x = place.down name then some .directory else t.node? x :=
        node?_put_of_ne (ne_directory_of_eq_none hnone) .directory
      have hrest' : ∀ x ∈ (place.down name).along rest,
          (t.put (place.down name) .directory).node? x = none ∨
            (t.put (place.down name) .directory).node? x = some .directory := by
        intro x hx
        rw [hput]
        split
        · exact Or.inr rfl
        · exact hrest x hx
      -- the others are made in the tree that has this directory
      obtain ⟨t', made', hmake, hextends, hnode⟩ :=
        ih (t := t.put (place.down name) .directory) true hnames hrest'
      refine ⟨t', made', fun steps => ?_, (Extends.put hnone .directory).trans hextends,
        fun x => ?_⟩
      · rw [List.map_cons, List.cons_append, makeFrom, hname, if_neg Bool.false_ne_true, hnone]
        exact hmake steps
      · rw [hnode, hput, Location.along]
        simp only [List.mem_cons]
        grind
    · -- a directory that is there is left as it is
      obtain ⟨t', made', hmake, hextends, hnode⟩ := ih made hnames hrest
      refine ⟨t', made', fun steps => ?_, hextends, fun x => ?_⟩
      · rw [List.map_cons, List.cons_append, makeFrom, hname, if_neg Bool.false_ne_true, hdirectory]
        exact hmake steps
      · rw [hnode, Location.along]
        simp only [List.mem_cons]
        grind

theorem makeFrom_down (made : Bool) {place : Location} {names : List String}
    (hshort : ∀ name ∈ names, t.isTooLong name = false)
    (halong : ∀ x ∈ place.along names, t.node? x = none ∨ t.node? x = some .directory) :
    ∃ t', makeFrom made place (names.map .down) t = (.ok (place.downAll names), t') ∧
      Extends t t' ∧
      ∀ x, t'.node? x = if x ∈ place.along names then some .directory else t.node? x := by
  obtain ⟨t', made', hmake, hextends, hnode⟩ := makeFrom_down_append made hshort halong
  have hwhole := hmake []
  rw [List.append_nil] at hwhole
  exact ⟨t', hwhole, hextends, hnode⟩

/-! ### Names that are not there -/

theorem le_total_of_mem {α : Type} {measure : α → Nat} {a : α} {l : List α} (h : a ∈ l) :
    measure a ≤ total measure l := by
  induction l with
  | nil => exact absurd h List.not_mem_nil
  | cons b l ih =>
    rw [total_cons]
    rcases List.mem_cons.1 h with rfl | h
    · exact Nat.le_add_right _ _
    · exact Nat.le_trans (ih h) (Nat.le_add_left _ _)

theorem length_freshName (t : Tree) :
    t.freshName.length = total String.length t.home.names +
      total (fun entry => entry.1.name.length) t.nodes + 1 := by
  unfold freshName
  dsimp only
  rw [String.length_ofList, List.length_cons, List.length_replicate]

/-- **Nothing has a fresh name**, wherever it is. -/
theorem node?_freshName (t : Tree) (place : Location) :
    t.node? (place.down t.freshName) = none := by
  have hlength := length_freshName t
  unfold node?
  split
  · next habove =>
    -- a place above home is named by one of the names that lead there
    obtain ⟨names, hhome⟩ := Location.isAbove_iff.1 habove
    have hmem : t.freshName ∈ t.home.names := by
      rw [hhome, Location.names_downAll]
      exact List.mem_append_right _ List.mem_cons_self
    have hle : t.freshName.length ≤ total String.length t.home.names := le_total_of_mem hmem
    omega
  · -- and any other place has a name shorter than the fresh one
    rw [List.lookup_eq_none_iff]
    intro entry hentry
    rw [bne_iff_ne]
    rintro heq
    have hle : entry.1.name.length ≤ total (fun entry => entry.1.name.length) t.nodes :=
      @le_total_of_mem _ (fun entry => entry.1.name.length) _ _ hentry
    have hname : entry.1.name = t.freshName := by
      rw [← heq]
      rfl
    rw [hname] at hle
    omega

end Tree

end Stencil
