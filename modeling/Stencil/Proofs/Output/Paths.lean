import Mathlib.Data.List.DropRight
import Stencil.Output.Location
import Stencil.Output.Path
import Stencil.Proofs.Text.Pieces

/-!
# Paths of files below a root

All that is asked of a path that ends in a name is told from its components: those before the name,
and the name. They say where the path ends (`splitEnd_of_components`) and what the path of its
directory means (`movingSteps_directoryOf`, `isAbsolute_directoryOf`), and they are those of the
root, followed by the names that were joined to it (`components_joinPath`). So the text of a root
need not be looked at, be it empty, with dots in it or with a slash at its end.
-/

namespace Stencil

/-! ### Components -/

theorem slash_not_mem_of_mem_components {path c : String} (h : c ∈ components path) :
    '/' ∉ c.toList := by
  obtain ⟨piece, hpiece, rfl⟩ := List.mem_map.1 h
  rw [String.toList_ofList]
  exact Text.not_mem_of_mem_splitOn hpiece

theorem mem_of_mem_components {path component : String} (h : component ∈ components path) {c : Char}
    (hc : c ∈ component.toList) : c ∈ path.toList := by
  obtain ⟨piece, hpiece, rfl⟩ := List.mem_map.1 h
  rw [String.toList_ofList] at hc
  exact (Text.infix_of_mem_splitOn hpiece).mem hc

theorem components_of_not_mem {path : String} (h : '/' ∉ path.toList) :
    components path = [path] := by
  unfold components
  rw [List.splitOn_eq_singleton h, List.map_singleton, String.ofList_toList]

/-- A slash divides the components before it from those behind it. -/
theorem components_of_toList_append {path : String} {u v : List Char}
    (h : path.toList = u ++ '/' :: v) :
    components path = (u.splitOn '/').map String.ofList ++ (v.splitOn '/').map String.ofList := by
  unfold components
  rw [h, List.splitOn_append_cons_self, List.map_append]

theorem components_intercalate {cs : List String} (hne : cs ≠ [])
    (hcs : ∀ c ∈ cs, '/' ∉ c.toList) : components ("/".intercalate cs) = cs :=
  Text.splitOn_toList_intercalate rfl hne hcs

/-- A path is its components with slashes between them. -/
theorem intercalate_components (path : String) :
    ['/'].intercalate ((components path).map String.toList) = path.toList := by
  have hpieces : (components path).map String.toList = path.toList.splitOn '/' := by
    unfold components
    rw [List.map_map]
    exact List.map_id'' (fun _ => String.toList_ofList) _
  rw [hpieces, List.intercalate_splitOn]

/-- Nothing stands behind the last slash only if it ends the path, or if there is nothing at all. -/
theorem eq_empty_or_getLast?_of_components {path : String} {before : List String}
    (h : components path = before ++ [""]) : path = "" ∨ path.toList.getLast? = some '/' := by
  have hjoined := intercalate_components path
  rw [h, List.map_append] at hjoined
  by_cases hbefore : before = []
  · rw [hbefore] at hjoined
    exact Or.inl (String.toList_eq_nil_iff.1 hjoined.symm)
  · have hpieces : before.map String.toList ≠ [] := mt List.map_eq_nil_iff.1 hbefore
    rw [List.map_singleton, Text.intercalate_append hpieces (List.cons_ne_nil _ _)] at hjoined
    refine Or.inr ?_
    rw [← hjoined, List.append_assoc]
    exact List.getLast?_concat

/-- A path begins at the root if its first component is empty, and is not all of it. -/
theorem isAbsolute_iff {path : String} :
    isAbsolute path = true ↔ (components path).head? = some "" ∧ (components path).tail ≠ [] := by
  unfold isAbsolute components
  rw [decide_eq_true_iff]
  cases path.toList with
  | nil => exact ⟨fun h => by contradiction, fun h => absurd rfl h.2⟩
  | cons c s =>
    obtain ⟨first, others, hsplit⟩ := List.exists_cons_of_ne_nil (List.splitOn_ne_nil '/' s)
    rw [List.splitOn_cons_eq_if_modifyHead, List.head?_cons, Option.some.injEq, hsplit]
    split
    · next hc =>
      -- the slash ends an empty component
      exact iff_of_true (beq_iff_eq.1 hc) ⟨rfl, List.cons_ne_nil _ _⟩
    · -- without a slash in front, the first component has this character
      next hc =>
      refine iff_of_false (fun heq => hc (beq_iff_eq.2 heq)) fun h => ?_
      have hfirst := congrArg String.toList (Option.some.inj h.1)
      rw [String.toList_ofList] at hfirst
      exact absurd hfirst (List.cons_ne_nil _ _)

/-! ### Paths below a root -/

/-- The components of a root with which the paths below it begin. -/
def rootComponents (root : String) : List String :=
  if root.isEmpty then []
  else if root.toList.getLast? = some '/' then (components root).dropLast
  else components root

theorem components_of_getLast? {path : String} (h : path.toList.getLast? = some '/') :
    ∃ u, path.toList = u ++ ['/'] ∧
      components path = (u.splitOn '/').map String.ofList ++ [""] := by
  obtain ⟨u, hu⟩ := List.getLast?_eq_some_iff.1 h
  exact ⟨u, hu, components_of_toList_append hu⟩

theorem toList_append_slash (root name : String) :
    (root ++ "/" ++ name).toList = root.toList ++ '/' :: name.toList := by
  rw [String.toList_append, String.toList_append, List.append_assoc]
  rfl

/-- **A joined path** has the components of the root and then the name. -/
theorem components_joinPath {root name : String} (hname : '/' ∉ name.toList) :
    components (joinPath root name) = rootComponents root ++ [name] := by
  have hhead : name.toList.head? ≠ some '/' := fun h => hname (List.mem_of_mem_head? h)
  have hpiece : (name.toList.splitOn '/').map String.ofList = [name] := components_of_not_mem hname
  unfold joinPath rootComponents
  rw [if_neg hhead]
  split
  · next hempty =>
    -- no slash is put between the two
    rw [Bool.or_eq_true, String.isEmpty_iff, decide_eq_true_iff] at hempty
    rcases hempty with rfl | hlast
    · rw [String.empty_append]
      exact components_of_not_mem hname
    · obtain ⟨u, hu, hcomponents⟩ := components_of_getLast? hlast
      have hroot : ¬ root.isEmpty = true := by
        rw [String.isEmpty_iff]
        rintro rfl
        contradiction
      have hchars : (root ++ name).toList = u ++ '/' :: name.toList := by
        rw [String.toList_append, hu, List.append_assoc]
        rfl
      rw [if_neg hroot, if_pos hlast, hcomponents, List.dropLast_concat,
        components_of_toList_append hchars, hpiece]
  · next hopen =>
    -- a slash is put between the two, and divides them
    rw [Bool.or_eq_true, decide_eq_true_iff, not_or] at hopen
    rw [if_neg hopen.1, if_neg hopen.2,
      components_of_toList_append (toList_append_slash root name), hpiece]
    rfl

/-- A path that ends in a name begins the paths below it with all its components. -/
theorem rootComponents_eq_components {path name : String} {before : List String}
    (h : components path = before ++ [name]) (hne : name ≠ "") :
    path.toList.getLast? ≠ some '/' ∧ rootComponents path = components path := by
  -- the path does not end in a slash, since its last component would be empty
  have hlast : ∀ u, components path ≠ u ++ [""] := by
    intro u hu
    rw [h] at hu
    exact hne (List.cons.inj (List.append_inj' hu rfl).2).1
  have hopen : path.toList.getLast? ≠ some '/' := by
    intro hslash
    obtain ⟨u, -, hu⟩ := components_of_getLast? hslash
    exact hlast _ hu
  have hnamed : ¬ path.isEmpty = true := by
    rw [String.isEmpty_iff]
    rintro rfl
    exact hlast [] rfl
  unfold rootComponents
  rw [if_neg hnamed, if_neg hopen]
  exact ⟨hopen, rfl⟩

theorem rootComponents_foldl (root : String) {names : List String}
    (hnames : ∀ name ∈ names, '/' ∉ name.toList ∧ name ≠ "") :
    rootComponents (names.foldl joinPath root) = rootComponents root ++ names := by
  induction names generalizing root with
  | nil => rw [List.foldl_nil, List.append_nil]
  | cons name rest ih =>
    obtain ⟨hslash, hne⟩ := hnames name List.mem_cons_self
    have hname : components (joinPath root name) = rootComponents root ++ [name] :=
      components_joinPath hslash
    rw [List.foldl_cons, ih _ fun n hn => hnames n (List.mem_cons_of_mem _ hn),
      (rootComponents_eq_components hname hne).2, hname, List.append_assoc, List.singleton_append]

theorem isAbsolute_joinPath {root name : String} (hname : '/' ∉ name.toList) :
    isAbsolute (joinPath root name) = isAbsolute root := by
  have hhead : name.toList.head? ≠ some '/' := fun h => hname (List.mem_of_mem_head? h)
  -- only the name can come first in a joined path, if the root is empty
  have hchars : ∃ between, (joinPath root name).toList = root.toList ++ between ∧
      (root.toList = [] → between = name.toList) := by
    unfold joinPath
    rw [if_neg hhead]
    split
    · exact ⟨name.toList, String.toList_append, fun _ => rfl⟩
    · next hopen =>
      rw [Bool.or_eq_true, not_or, String.isEmpty_iff] at hopen
      exact ⟨'/' :: name.toList, toList_append_slash root name,
        fun hnil => absurd (String.toList_eq_nil_iff.1 hnil) hopen.1⟩
  obtain ⟨between, hjoined, hbetween⟩ := hchars
  unfold isAbsolute
  rw [hjoined, List.head?_append]
  cases hroot : root.toList with
  | nil =>
    rw [hbetween hroot, List.head?_nil, Option.none_or]
    exact decide_eq_decide.2 (iff_of_false hhead (by decide))
  | cons c rest => rfl

theorem mem_joinPath {root name : String} {c : Char} (h : c ∈ (joinPath root name).toList) :
    c ∈ root.toList ∨ c = '/' ∨ c ∈ name.toList := by
  unfold joinPath at h
  split at h
  · exact Or.inr (Or.inr h)
  split at h
  · rw [String.toList_append, List.mem_append] at h
    exact h.imp_right Or.inr
  · rw [toList_append_slash, List.mem_append] at h
    exact h.imp_right List.mem_cons.1

theorem foldl_joinPath (root : String) {names : List String}
    (hnames : ∀ name ∈ names, '/' ∉ name.toList ∧ '\x00' ∉ name.toList) :
    isAbsolute (names.foldl joinPath root) = isAbsolute root ∧
      ('\x00' ∉ root.toList → '\x00' ∉ (names.foldl joinPath root).toList) := by
  induction names generalizing root with
  | nil => exact ⟨rfl, id⟩
  | cons name rest ih =>
    obtain ⟨hslash, hnull⟩ := hnames name List.mem_cons_self
    obtain ⟨habsolute, hclean⟩ :=
      ih (joinPath root name) fun n hn => hnames n (List.mem_cons_of_mem _ hn)
    rw [List.foldl_cons, habsolute]
    refine ⟨isAbsolute_joinPath hslash, fun hroot => hclean fun hmem => ?_⟩
    -- no name brings a null character into the path, and neither does the slash
    rcases mem_joinPath hmem with h | h | h
    · exact hroot h
    · exact absurd h (by decide)
    · exact hnull h

/-- The steps to a root are those of its components. A slash at its end adds a step that leads
nowhere. -/
theorem pathSteps_eq_or (root : String) :
    pathSteps root = (rootComponents root).map .ofComponent ∨
      pathSteps root = (rootComponents root).map .ofComponent ++ [.stay] := by
  -- a slash at the end leaves an empty component, and so does an empty path, which stays
  unfold pathSteps rootComponents
  split
  · next hempty =>
    rw [String.isEmpty_iff.1 hempty]
    exact Or.inr rfl
  split
  · next hlast =>
    obtain ⟨u, -, hcomponents⟩ := components_of_getLast? hlast
    rw [hcomponents, List.dropLast_concat, List.map_append]
    exact Or.inr rfl
  · exact Or.inl rfl

theorem splitEnd_of_components {path last : String} {before : List String}
    (h : components path = before ++ [last]) (hne : last ≠ "") :
    splitEnd path = (before, last) := by
  unfold splitEnd
  rw [h, List.reverse_append, List.reverse_singleton, List.singleton_append,
    List.dropWhile_cons_of_neg (by simpa using hne)]
  dsimp only
  rw [List.reverse_reverse]

/-! ### Paths that end in a name -/

/-- **A path ends in a name** that leads down from its directory. -/
structure EndsIn (path : String) (before : List String) (name : String) : Prop where
  components_eq : components path = before ++ [name]
  step : PathStep.ofComponent name = .down name

theorem eq_of_ofComponent {component name : String}
    (h : PathStep.ofComponent component = .down name) : component = name := by
  unfold PathStep.ofComponent at h
  split at h
  · contradiction
  split at h
  · contradiction
  exact PathStep.down.inj h

/-- A path without a slash at its end ends in a name if its last component leads down. -/
theorem endsIn_of_splitEnd {path last name : String} {before : List String}
    (hslash : endsInSlash path = false) (hsplit : splitEnd path = (before, last))
    (hstep : PathStep.ofComponent last = .down name) : EndsIn path before name := by
  obtain rfl := eq_of_ofComponent hstep
  obtain ⟨init, final, hcomponents⟩ : ∃ init final, components path = init ++ [final] := by
    have hne : components path ≠ [] := fun hnil =>
      List.splitOn_ne_nil '/' path.toList (List.map_eq_nil_iff.1 hnil)
    exact ⟨_, _, (List.dropLast_append_getLast hne).symm⟩
  by_cases hfinal : final = ""
  · -- only the empty path ends so, and it has no last component that leads down
    rw [hfinal] at hcomponents
    rcases eq_empty_or_getLast?_of_components hcomponents with rfl | hlast
    · obtain ⟨-, rfl⟩ := Prod.mk.inj hsplit
      contradiction
    · exact absurd hlast (of_decide_eq_false hslash)
  · rw [splitEnd_of_components hcomponents hfinal] at hsplit
    obtain ⟨rfl, rfl⟩ := Prod.mk.inj hsplit
    exact ⟨hcomponents, hstep⟩

theorem endsIn_joinPath (root : String) {name : String} (hslash : '/' ∉ name.toList)
    (hstep : PathStep.ofComponent name = .down name) :
    EndsIn (joinPath root name) (rootComponents root) name :=
  ⟨components_joinPath hslash, hstep⟩

namespace EndsIn

variable {path name : String} {before : List String}

theorem ne_empty (h : EndsIn path before name) : name ≠ "" := by
  rintro rfl
  exact absurd h.step (by decide)

theorem path_ne_empty (h : EndsIn path before name) : path ≠ "" := by
  rintro rfl
  have hcomponents : [] ++ [""] = before ++ [name] := h.components_eq
  exact h.ne_empty (List.cons.inj (List.append_inj' hcomponents rfl).2).1.symm

theorem endsInSlash_eq (h : EndsIn path before name) : endsInSlash path = false :=
  decide_eq_false (rootComponents_eq_components h.components_eq h.ne_empty).1

theorem splitEnd_eq (h : EndsIn path before name) : splitEnd path = (before, name) :=
  splitEnd_of_components h.components_eq h.ne_empty

theorem pathSteps_eq (h : EndsIn path before name) :
    pathSteps path = before.map .ofComponent ++ [.down name] := by
  unfold pathSteps
  rw [h.components_eq, List.map_append, List.map_singleton, h.step]

/-- The path of the directory is joined from the components before the name, up to the last one
that leads anywhere. -/
theorem directoryOf_eq (h : EndsIn path before name) :
    directoryOf path =
      if (before.rdropWhile isStay).isEmpty && isAbsolute path then "/"
      else "/".intercalate (before.rdropWhile isStay) := by
  have hname : ¬ isStay name = true := by
    unfold isStay
    rw [h.step]
    exact fun hstay => by contradiction
  unfold directoryOf List.rdropWhile
  rw [h.components_eq, List.reverse_append, List.reverse_singleton, List.singleton_append,
    List.dropWhile_cons_of_neg hname, List.drop_one, List.tail_cons, List.isEmpty_reverse]

/-- Some components lead to the directory, and the others before the name lead nowhere. -/
theorem before_eq (before : List String) :
    ∃ stays, before = before.rdropWhile isStay ++ stays ∧ ∀ c ∈ stays, isStay c = true := by
  refine ⟨before.rtakeWhile isStay, List.rdropWhile_append_rtakeWhile.symm, ?_⟩
  exact fun c hc => List.mem_rtakeWhile_imp hc

/-- What is joined has the components from which it is joined, and the last of them leads somewhere.
If there are none, the path is that of the root or empty. -/
theorem directoryOf_cases (h : EndsIn path before name) :
    (before.rdropWhile isStay = [] ∧ directoryOf path = if isAbsolute path then "/" else "") ∨
    ∃ init last, before.rdropWhile isStay = init ++ [last] ∧ isStay last = false ∧
      components (directoryOf path) = init ++ [last] := by
  rw [h.directoryOf_eq]
  by_cases hkept : before.rdropWhile isStay = []
  · rw [hkept]
    exact Or.inl ⟨rfl, rfl⟩
  · have hsplit := (List.dropLast_append_getLast hkept).symm
    have hlast := Bool.eq_false_iff.2 (List.rdropWhile_last_not isStay before hkept)
    have hnot : ¬ ((before.rdropWhile isStay).isEmpty && isAbsolute path) = true := by
      rw [Bool.and_eq_true, List.isEmpty_iff]
      exact fun hempty => hkept hempty.1
    -- the components are some of the path, so a slash stands only between them
    have hbefore : ∀ c ∈ before.rdropWhile isStay, '/' ∉ c.toList := by
      intro c hc
      have hmem : c ∈ components path := by
        rw [h.components_eq]
        exact List.mem_append_left _ ((List.rdropWhile_prefix _ _).mem hc)
      exact slash_not_mem_of_mem_components hmem
    refine Or.inr ⟨_, _, hsplit, hlast, ?_⟩
    rw [if_neg hnot, components_intercalate hkept hbefore]
    exact hsplit

/-- **The path of the directory means the steps before the name.** -/
theorem movingSteps_directoryOf (h : EndsIn path before name) :
    movingSteps (directoryOf path) = (before.map .ofComponent).filter (· ≠ .stay) := by
  obtain ⟨stays, hbefore, hstays⟩ := before_eq before
  -- the path leaves the last components out, but they lead nowhere
  have hnowhere : (stays.map PathStep.ofComponent).filter (· ≠ .stay) = [] := by
    rw [List.filter_eq_nil_iff]
    intro step hstep
    obtain ⟨c, hc, rfl⟩ := List.mem_map.1 hstep
    have hstay : PathStep.ofComponent c = .stay := of_decide_eq_true (hstays c hc)
    rw [hstay]
    decide
  have hsteps : (before.map PathStep.ofComponent).filter (· ≠ .stay) =
      ((before.rdropWhile isStay).map .ofComponent).filter (· ≠ .stay) := by
    conv_lhs => rw [hbefore, List.map_append, List.filter_append, hnowhere, List.append_nil]
  rw [hsteps]
  rcases h.directoryOf_cases with ⟨hnone, hpath⟩ | ⟨init, last, hkept, -, hcomponents⟩
  · rw [hpath, hnone]
    split <;> rfl
  · unfold movingSteps pathSteps
    rw [hcomponents, hkept]

/-- **The path of the directory begins where the path does.** -/
theorem isAbsolute_directoryOf (h : EndsIn path before name) :
    isAbsolute (directoryOf path) = isAbsolute path := by
  obtain ⟨stays, hbefore, -⟩ := before_eq before
  rcases h.directoryOf_cases with ⟨-, hpath⟩ | ⟨init, last, hkept, hlast, hcomponents⟩
  · rw [hpath]
    cases isAbsolute path <;> rfl
  · rw [Bool.eq_iff_iff, isAbsolute_iff, isAbsolute_iff, hcomponents, h.components_eq, hbefore,
      hkept]
    have hne : last ≠ "" := by
      rintro rfl
      contradiction
    cases init with
    | nil =>
      -- the first component is the last that leads anywhere, so it is not empty
      exact iff_of_false (fun h => hne (Option.some.inj h.1)) fun h => hne (Option.some.inj h.1)
    | cons first others =>
      exact and_congr Iff.rfl (iff_of_true (by simp) (by simp))

theorem endsInDot_directoryOf (h : EndsIn path before name) :
    endsInDot (directoryOf path) = false := by
  rcases h.directoryOf_cases with ⟨-, hpath⟩ | ⟨init, last, -, hlast, hcomponents⟩
  · rw [hpath]
    split <;> decide
  · -- the last component leads somewhere, so it is no dot
    have hne : last ≠ "" ∧ last ≠ "." := by
      constructor <;>
      · rintro rfl
        contradiction
    have hend : splitEnd (directoryOf path) = (init, last) :=
      splitEnd_of_components hcomponents hne.1
    unfold endsInDot
    rw [hend]
    split
    · next heq => exact absurd (Prod.mk.inj heq).2 hne.2
    · rfl

theorem mem_directoryOf (h : EndsIn path before name) {c : Char}
    (hc : c ∈ (directoryOf path).toList) : c = '/' ∨ c ∈ path.toList := by
  rw [h.directoryOf_eq] at hc
  split at hc
  · exact Or.inl (List.mem_singleton.1 hc)
  · -- between the components stand slashes, and each of them is one of the path
    rw [String.toList_intercalate] at hc
    rcases Text.mem_intercalate hc with hc | ⟨piece, hpiece, hc⟩
    · exact Or.inl (List.mem_singleton.1 hc)
    · obtain ⟨component, hcomponent, rfl⟩ := List.mem_map.1 hpiece
      have hmem : component ∈ components path := by
        rw [h.components_eq]
        exact List.mem_append_left _ ((List.rdropWhile_prefix _ _).mem hcomponent)
      exact Or.inr (mem_of_mem_components hmem hc)

end EndsIn

end Stencil
