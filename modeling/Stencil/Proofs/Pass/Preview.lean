import Stencil.Proofs.Java.PackageChecks
import Stencil.Proofs.Java.TemplateText
import Stencil.Proofs.Output.Mirror
import Stencil.Proofs.Pass.InStep
import Stencil.Proofs.Pass.Overlay

/-!
# A dry run foretells the real one

The same rounds are passed over once with an area in memory and once with an area below an empty
directory. The two go in step, and after every request the directory mirrors the memory. So each
result of the real run is told by that of the dry one (`Realized`): what is rendered is published
under a safe name, and refused under any other. The structured strategy renders safe names only,
since identifiers are safe segments.
-/

namespace Stencil

/-! ### Names of built classes -/

namespace Java

theorem isSafeSegment_of_isToken {w : List Char} (h : IsToken w) : isSafeSegment w = true := by
  refine isSafeSegment_iff.2 ⟨h.ne_nil, fun c hc => ?_, Text.trim_eq_self ?_ ?_⟩
  · exact ⟨h.ne hc (by decide), h.ne hc (by decide), h.ne hc (by decide)⟩
  · exact fun c hc => h.solid c (List.mem_of_mem_head? hc)
  · exact fun c hc => h.solid c (List.mem_of_getLast? hc)

/-- **The name of a built class is safe.** -/
theorem isSafeName_of_buildClass {t : ClassTemplate} {r : Request} {c : ClassModel}
    (h : buildClass t r = .ok c) : IsSafeName r.qualifiedName := by
  obtain ⟨-, hcheck, -⟩ := buildClass_ok h
  have hfault := fault?_of_checkName hcheck
  -- an identifier has no dots, so the class name is one segment
  have hclass : r.className.toList.splitOn '.' = [r.className.toList] := by
    refine List.splitOn_eq_singleton fun hdot => ?_
    exact absurd ((isPart_of_fault? hfault).2 '.' hdot) (by decide)
  have hsafe : isSafeSegment r.className.toList = true :=
    isSafeSegment_of_isToken (isToken_of_fault? hfault)
  unfold IsSafeName Request.qualifiedName qualifiedName
  split
  · rw [hclass]
    intro segment hsegment
    rwa [List.mem_singleton.1 hsegment]
  · next hnamed =>
    have hpackage : qualifiedFault? r.package = none :=
      (isPackage_of_buildClass h).resolve_left fun hempty => hnamed (String.isEmpty_iff.2 hempty)
    have hchars : (r.package ++ "." ++ r.className).toList =
        r.package.toList ++ '.' :: r.className.toList := by
      rw [String.toList_append, String.toList_append, List.append_assoc]
      rfl
    rw [hchars, List.splitOn_append_cons_self, hclass]
    intro segment hsegment
    rcases List.mem_append.1 hsegment with hsegment | hsegment
    · -- the segments of a package are identifiers
      have hidentifier : fault? (String.ofList segment) = none :=
        fault?_of_mem_segments hpackage (List.mem_map_of_mem hsegment)
      have htoken := isToken_of_fault? hidentifier
      rw [String.toList_ofList] at htoken
      exact isSafeSegment_of_isToken htoken
    · rwa [List.mem_singleton.1 hsegment]

end Java

theorem isSafeName_of_render {t : ClassTemplate} {r : Request} {a : Artifact}
    (h : Strategy.structured.render t r = .ok a) : IsSafeName a.name := by
  rw [Strategy.name_of_render h]
  obtain ⟨c, hc, -⟩ := Strategy.exists_buildClass_of_render h
  exact Java.isSafeName_of_buildClass hc

/-! ### Results -/

/-- The error of a publication, if it is one. -/
def GenerateError.write? : GenerateError → Option WriteError
  | write e => some e
  | _ => none

theorem write?_of_render {s : Strategy} {t : ClassTemplate} {r : Request} {e : GenerateError}
    (h : s.render t r = .error e) : e.write? = none := by
  cases s with
  | structured =>
    unfold Strategy.render at h
    dsimp only at h
    split at h
    · contradiction
    · cases h
      rfl
  | rawText => contradiction

/-- **What a result of the dry run comes to**: an artifact is published if its name is safe and
refused if it is not, and what failed fails in the same way. -/
inductive Realized (render : Request → Except GenerateError Artifact) :
    Except GenerateError String → Except GenerateError String → Prop
  | published {r : Request} {a : Artifact} (h : render r = .ok a) (hsafe : IsSafeName a.name) :
      Realized render (.ok a.name) (.ok a.name)
  | refused {r : Request} {a : Artifact} {fault : Fault} (h : render r = .ok a)
      (hbad : ¬ IsSafeName a.name) (hkind : fault.kind = .invalidInput) :
      Realized render (.ok a.name) (.error (.write ⟨a.name, fault⟩))
  | failed {e : GenerateError} (h : e.write? = none) : Realized render (.error e) (.error e)

section

variable {render : Request → Except GenerateError Artifact} {fresh : DirectoryArea}
  {place : Location}

/-- **The two runs go in step**, and the directory mirrors the memory all the time. -/
theorem inStep_mirrors (hfresh : fresh.IsFresh place)
    (hrender : ∀ r e, render r = .error e → e.write? = none) :
    InStep render MemoryArea.output.publish DirectoryArea.output.publish
      (fun memory area => memory.readOnly = false ∧
        ∃ tree, area = { fresh with tree } ∧ fresh.Mirrors place memory tree)
      (Realized render) where
  duplicate name declaration := .failed rfl
  generate := by
    rintro r memory _ ⟨hwritable, tree, rfl, hmirrors⟩
    -- only an artifact goes to the areas, so an error leaves both as they are
    cases hr : render r with
    | error e =>
      rw [generate_of_error hr, generate_of_error hr]
      exact ⟨.failed (hrender r e hr), hwritable, tree, rfl, hmirrors⟩
    | ok a =>
      obtain ⟨result, tree', hpublish, hmirrors', hresult⟩ := hmirrors.publish hfresh a
      rw [generate_of_ok hr, generate_of_ok hr, MemoryArea.publish_eq a hwritable, hpublish]
      refine ⟨?_, hwritable, tree', rfl, hmirrors'⟩
      rcases hresult with ⟨hsafe, rfl⟩ | ⟨hbad, fault, hkind, rfl⟩
      · exact .published hr hsafe
      · exact .refused hr hbad hkind

/-- **What a round of the dry run foretells of the real round.** -/
structure RoundOutcome.Foretells (dry real : RoundOutcome) : Prop where
  claimed : real.claimed = dry.claimed
  written : real.written = dry.written.filter (IsSafeName ·)
  /-- Every other name is refused for what it is. -/
  refused : (real.failures.filterMap GenerateError.write?).map (fun e => (e.name, e.fault.kind)) =
    (dry.written.filter (¬ IsSafeName ·)).map fun name => (name, .invalidInput)
  /-- Whatever else fails in one run fails in the other. -/
  others : real.failures.filter (·.write?.isNone) = dry.failures

theorem ofResults_cons_ok (name : String) (results : List (Except GenerateError String)) :
    RoundOutcome.ofResults (.ok name :: results) =
      { RoundOutcome.ofResults results with
        written := name :: (RoundOutcome.ofResults results).written } := rfl

theorem ofResults_cons_error (e : GenerateError) (results : List (Except GenerateError String)) :
    RoundOutcome.ofResults (.error e :: results) =
      { RoundOutcome.ofResults results with
        failures := e :: (RoundOutcome.ofResults results).failures } := rfl

theorem foretells_ofResults {results results' : List (Except GenerateError String)}
    (h : List.Forall₂ (Realized render) results results') :
    (RoundOutcome.ofResults results).Foretells (.ofResults results') := by
  induction h with
  | nil => exact ⟨rfl, rfl, rfl, rfl⟩
  | @cons _ _ results results' hresult _ ih =>
    obtain ⟨-, hwritten, hrefused, hothers⟩ := ih
    -- a name is written or refused in the real run, and any other failure is one of the others
    cases hresult with
    | @published _ a _ hsafe =>
      rw [ofResults_cons_ok, ofResults_cons_ok]
      refine ⟨rfl, ?_, ?_, hothers⟩ <;> dsimp only
      · rw [List.filter_cons_of_pos (by simpa using hsafe), hwritten]
      · rw [List.filter_cons_of_neg (by simpa using hsafe)]
        exact hrefused
    | @refused _ a fault _ hbad hkind =>
      rw [ofResults_cons_ok, ofResults_cons_error]
      refine ⟨rfl, ?_, ?_, hothers⟩ <;> dsimp only
      · rw [List.filter_cons_of_neg (by simpa using hbad), hwritten]
      · -- the refusal is the one that the publication tells of
        rw [List.filter_cons_of_pos (by simpa using hbad), List.map_cons, ← hrefused, ← hkind]
        rfl
    | @failed e hother =>
      rw [ofResults_cons_error, ofResults_cons_error]
      refine ⟨rfl, hwritten, ?_, ?_⟩ <;> dsimp only
      · rw [List.filterMap_cons_none hother]
        exact hrefused
      · rw [List.filter_cons_of_pos (by rw [hother]; rfl), hothers]

theorem RoundOutcome.Matched.foretells {dry real : RoundOutcome}
    (h : RoundOutcome.Matched (Realized render) dry real) : dry.Foretells real := by
  cases h with
  | unclaimed => exact ⟨rfl, rfl, rfl, rfl⟩
  | claimed h => exact foretells_ofResults h

/-- If all that is rendered has a safe name, the rounds do not differ. -/
theorem RoundOutcome.Matched.eq_of_safe
    (hsafe : ∀ r a, render r = .ok a → IsSafeName a.name) {dry real : RoundOutcome}
    (h : RoundOutcome.Matched (Realized render) dry real) : real = dry := by
  have hresult : ∀ result result', Realized render result result' → result' = result := by
    intro result result' hrealized
    cases hrealized with
    | published => rfl
    -- with safe names this case does not come up
    | refused hr hbad => exact absurd (hsafe _ _ hr) hbad
    | failed => rfl
  cases h with
  | unclaimed => rfl
  | claimed h =>
    refine congrArg RoundOutcome.ofResults ?_
    induction h with
    | nil => rfl
    | cons hfirst _ ih => rw [hresult _ _ hfirst, ih]

end

theorem written_of_foretells {dry real : List RoundOutcome}
    (h : List.Forall₂ RoundOutcome.Foretells dry real) :
    real.flatMap (·.written) = (dry.flatMap (·.written)).filter (IsSafeName ·) := by
  induction h with
  | nil => rfl
  | cons hfirst _ ih =>
    rw [List.flatMap_cons, List.flatMap_cons, List.filter_append, hfirst.written, ih]

/-! ### Files -/

/-- A run in memory has a text under every name that it published, and under those that it had in
the beginning. -/
theorem Answered.isSome_get? {render : Request → Except GenerateError Artifact}
    {earlier : List String} {asked : List (Declaration × Request)} {area final : MemoryArea}
    {results : List (Except GenerateError String)}
    (h : Answered render MemoryArea.output.publish earlier asked area results final)
    (hwritable : area.readOnly = false) (name : String) :
    final.readOnly = false ∧ ((final.get? name).isSome = true ↔
      (area.get? name).isSome = true ∨ name ∈ results.filterMap Except.toOption) := by
  induction h with
  | none => exact ⟨hwritable, by simp⟩
  | repeated _ _ ih => exact ih hwritable
  | @first _ _ r _ state next _ result _ _ hresult _ ih =>
    -- an error leaves the memory as it is, and a success puts its name there
    cases hr : render r with
    | error e =>
      rw [generate_of_error hr] at hresult
      cases hresult
      exact ih hwritable
    | ok a =>
      rw [generate_of_ok hr, MemoryArea.publish_eq a hwritable] at hresult
      cases hresult
      obtain ⟨hfinal, hget⟩ := ih hwritable
      refine ⟨hfinal, hget.trans ?_⟩
      change _ ↔ _ ∨ name ∈ a.name :: _
      rw [MemoryArea.get?_put, List.mem_cons]
      by_cases hname : name = a.name
      · rw [if_pos hname]
        exact iff_of_true (Or.inl rfl) (Or.inr (Or.inl hname))
      · rw [if_neg hname]
        exact or_congr_right (iff_of_eq (by rw [eq_false hname, false_or]))

theorem isSome_get?_runRounds (render : Request → Except GenerateError Artifact)
    (config : PassConfig) (rounds : List Round) {area : MemoryArea}
    (hwritable : area.readOnly = false) (name : String) :
    ((runRounds config render MemoryArea.output.publish rounds area).2.get? name).isSome = true ↔
      (area.get? name).isSome = true ∨
        name ∈ (runRounds config render MemoryArea.output.publish rounds area).1.flatMap
          (·.written) := by
  induction rounds generalizing area with
  | nil => exact (or_iff_left List.not_mem_nil).symm
  | cons round rest ih =>
    obtain ⟨results, next, hrun, hanswered⟩ :=
      answered_runRound config render MemoryArea.output.publish round area
    obtain ⟨hnext, hround⟩ := hanswered.isSome_get? hwritable name
    have hwritten : (runRound config render MemoryArea.output.publish round area).1.written =
        results.filterMap Except.toOption := by
      rw [hrun]
      exact written_ofResults results
    rw [runRounds_cons, List.flatMap_cons, List.mem_append, ← or_assoc, hwritten, hrun, ← hround]
    exact ih hnext

/-- **An area that holds the files of some names**, with the texts that memory has under them, and
no other files below its directory. -/
structure DirectoryArea.HoldsJust (area : DirectoryArea) (place : Location) (names : List String)
    (memory : MemoryArea) : Prop where
  file : ∀ name ∈ names, ∃ path content, pathFor area.root area.extension name = .ok path ∧
    memory.get? name = some content ∧ area.tree.readFile path = .ok (Text.bytesOf content)
  nothingElse : ∀ x bytes, place.isAbove x = true → area.tree.node? x = some (.file bytes) →
    ∃ name ∈ names, ∃ path, pathFor area.root area.extension name = .ok path ∧
      area.tree.locate path = .ok x

theorem DirectoryArea.Mirrors.holdsJust {fresh : DirectoryArea} {place : Location}
    {memory : MemoryArea} {tree : Tree} (h : fresh.Mirrors place memory tree)
    (hfresh : fresh.IsFresh place) {names : List String}
    (hnames : ∀ name, name ∈ names ↔ IsSafeName name ∧ (memory.get? name).isSome = true) :
    HoldsJust { fresh with tree } place names memory where
  file name hname := by
    obtain ⟨hsafe, hsome⟩ := (hnames name).1 hname
    obtain ⟨content, hget⟩ := Option.isSome_iff_exists.1 hsome
    obtain ⟨-, hread⟩ := h.readFile_eq hfresh hsafe hget
    exact ⟨_, content, pathFor_of_isSafeName hsafe _ _, hget, hread⟩
  nothingElse x bytes habove hfile := by
    obtain ⟨below, rfl⟩ := Location.isAbove_iff.1 habove
    -- at the place itself is a directory, so the file is below it
    have hne : below ≠ [] := by
      rintro rfl
      rw [Location.downAll_nil, (h.leadsTo hfresh).directory] at hfile
      exact nomatch hfile
    obtain ⟨name, content, hsafe, hget, hplace, -⟩ := (h.file below hne bytes).1 hfile
    obtain ⟨hlocate, -⟩ := h.readFile_eq hfresh hsafe hget
    refine ⟨name, (hnames name).2 ⟨hsafe, by rw [hget]; rfl⟩, _,
      pathFor_of_isSafeName hsafe _ _, ?_⟩
    rw [hplace]
    exact hlocate

/-- **A dry run foretells the real one.** In every round the names that are published below the
directory are the safe ones of those that are published in memory, the others are refused for what
they are, and all other failures are the same. In the end the directory holds just the files of the
names that were published, with the texts that memory has under them. The structured strategy
renders safe names only, so with it the two runs have the same outcomes. -/
theorem dryRun_foretells {fresh : DirectoryArea} {place : Location} (hfresh : fresh.IsFresh place)
    (m : Manifest) (s : Strategy) (feed : Feed) :
    let config := PassConfig.ofManifest m
    let dry := runRounds config (s.render m.template) MemoryArea.output.publish feed.rounds {}
    let real :=
      runRounds config (s.render m.template) DirectoryArea.output.publish feed.rounds fresh
    List.Forall₂ RoundOutcome.Foretells dry.1 real.1 ∧
      DirectoryArea.HoldsJust { fresh with tree := real.2.tree } place
        (real.1.flatMap (·.written)) dry.2 ∧
      (s = .structured →
        (∀ r a, s.render m.template r = .ok a → IsSafeName a.name) ∧ real.1 = dry.1) := by
  intro config dry real
  -- both start out empty, and from then on the directory mirrors the memory
  have hstep := @inStep_mirrors (s.render m.template) _ _ hfresh fun _ _ => write?_of_render
  obtain ⟨hrounds, -, tree, hreal, hmirrors⟩ :=
    hstep.runRounds config feed.rounds ⟨rfl, fresh.tree, rfl, hfresh.mirrors⟩
  have hforetells : List.Forall₂ RoundOutcome.Foretells dry.1 real.1 :=
    hrounds.imp fun _ _ => RoundOutcome.Matched.foretells
  have htree : real.2.tree = tree := congrArg DirectoryArea.tree hreal
  refine ⟨hforetells, ?_, ?_⟩
  · -- memory was empty, so it has texts under the names that were published in it
    rw [htree]
    refine hmirrors.holdsJust hfresh fun name => ?_
    rw [written_of_foretells hforetells, List.mem_filter, decide_eq_true_iff, and_comm]
    refine and_congr_right fun _ => ?_
    have hdry := @isSome_get?_runRounds (s.render m.template) config feed.rounds {} rfl name
    rw [hdry]
    exact (or_iff_right (fun hnone => nomatch hnone)).symm
  · rintro rfl
    have hsafe : ∀ r a, Strategy.structured.render m.template r = .ok a → IsSafeName a.name :=
      fun _ _ => isSafeName_of_render
    have hsame : List.Forall₂ (· = ·) dry.1 real.1 :=
      hrounds.imp fun _ _ h => (h.eq_of_safe hsafe).symm
    rw [List.forall₂_eq_eq_eq] at hsame
    exact ⟨hsafe, hsame.symm⟩

/-- An empty directory beside a file, and a package that cannot be one of directories. -/
theorem dryRun_foretells_slash :
    let nodes := [(Location.root.down "out", .directory), (Location.root.down "notes", .file [])]
    let tree : Tree := { nodes, nameLimit := none, pathLimit := none }
    let fresh : DirectoryArea := { root := "./out/", tree }
    let m : Manifest := ⟨⟨"m", .rawText⟩, { className := "C" }⟩
    let rounds : List Round := [⟨[⟨"m", "a", none⟩, ⟨"m", "a/b", none⟩, ⟨"m", "a", some "E"⟩]⟩,
      ⟨[⟨"m", "", none⟩]⟩]
    let real := runRounds (.ofManifest m) (Strategy.rawText.render m.template)
      DirectoryArea.output.publish rounds fresh
    fresh.IsFresh (.down .root "out") ∧
      "a/b.C" ∉ real.1.flatMap (·.written) ∧
      real.2.tree.readFile "./out/a/C.java" =
        .ok (Text.bytesOf (Java.RawText.text m.template ⟨"a", "C"⟩)) := by
  intro nodes tree fresh m rounds real
  have hfresh : fresh.IsFresh (.down .root "out") :=
    { nameLimit := rfl, pathLimit := rfl, root := by decide, extension := by decide,
      found := by decide, directory := by decide,
      empty := fun _ => DirectoryArea.node?_eq_none_of_empty (by decide) (by decide) }
  obtain ⟨hrounds, hholds, -⟩ := dryRun_foretells hfresh m .rawText ⟨rounds⟩
  have hwritten := written_of_foretells hrounds
  refine ⟨hfresh, fun hmem => ?_, ?_⟩
  · have hsafe := (congrArg ("a/b.C" ∈ ·) hwritten).mp hmem
    exact absurd (List.mem_filter.1 hsafe).2 (by decide +kernel)
  · -- what memory has under the name was rendered for the package
    have hlaid := @MemoryArea.overlaid_afterPass (Strategy.rawText.render m.template)
      (fun _ _ => Strategy.name_of_render) (.ofManifest m) {} rfl rounds
    have hname : qualifiedName "a" "C" = "a.C" := by decide
    have hrendered := hlaid.rendered "a" (by decide) _ rfl
    have hmem : "a.C" ∈ real.1.flatMap (·.written) := by
      refine (congrArg ("a.C" ∈ ·) hwritten).mpr (List.mem_filter.2 ⟨?_, by decide +kernel⟩)
      have hsome := (@isSome_get?_runRounds (Strategy.rawText.render m.template)
        (.ofManifest m) rounds {} rfl "a.C").1 (hname ▸ Option.isSome_of_eq_some hrendered)
      exact hsome.resolve_left (by decide)
    obtain ⟨path, content, hpath, hget, hread⟩ := hholds.file "a.C" hmem
    have hpath' : pathFor "./out/" "java" "a.C" = .ok "./out/a/C.java" := by decide +kernel
    obtain rfl : "./out/a/C.java" = path := Except.ok.inj (hpath'.symm.trans hpath)
    have hcontent : content = Java.RawText.text m.template ⟨"a", "C"⟩ :=
      Option.some.inj (hget.symm.trans (hname ▸ hrendered))
    exact hcontent ▸ hread

end Stencil
