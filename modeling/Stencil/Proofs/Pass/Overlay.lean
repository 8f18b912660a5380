import Mathlib.Logic.Function.Iterate
import Stencil.Proofs.Keyed
import Stencil.Proofs.Output.Publishing
import Stencil.Proofs.Pass.Accounting

/-!
# What a pass leaves in memory

A pass over rounds lays the artifacts of its requests over the files of an area in memory, and which
requests there were is all that matters: `Overlaid` tells the files of one area from those of
another and from the *set* of packages that were asked for, so it is blind to order and to
repetition.

* `Overlaid.unique` — an area is determined by what it is laid over;
* `Overlaid.trans` — laying over twice is laying over once, with the packages of both. This is where
  two packages might get in each other's way, and `qualifiedName_inj` says that they do not;
* `Answered.overlaid` — a run lays over the packages that it was asked for. The refusals of the pass
  depend on the order of the declarations, but they only ever spare it a second look at a package;
* `afterPass_overlaid` — the pass as a whole, and what does not change its files.
-/

namespace Stencil

/-! ### What is asked for -/

/-- The packages of the declarations with the marker, in all rounds. -/
def PassConfig.packages (config : PassConfig) (rounds : List Round) : List String :=
  rounds.flatMap fun round => (config.matching round).map (·.1.package)

theorem PassConfig.packages_cons (config : PassConfig) (round : Round) (rest : List Round) :
    config.packages (round :: rest) =
      (config.matching round).map (·.1.package) ++ config.packages rest :=
  List.flatMap_cons

/-- The packages depend on the declarations alone, not on the rounds that these are in. -/
theorem PassConfig.mem_packages {config : PassConfig} {rounds : List Round} {package : String} :
    package ∈ config.packages rounds ↔
      ∃ d ∈ rounds.flatMap (·.declarations), d.marker = config.marker ∧ d.package = package := by
  simp only [PassConfig.packages, PassConfig.matching, List.mem_flatMap, List.mem_map,
    List.mem_filter, beq_iff_eq]
  constructor
  · rintro ⟨round, hround, _, ⟨d, ⟨hd, hmarker⟩, rfl⟩, rfl⟩
    exact ⟨d, ⟨round, hround, hd⟩, hmarker, rfl⟩
  · rintro ⟨d, ⟨round, hround, hd⟩, hmarker, rfl⟩
    exact ⟨round, hround, _, ⟨d, ⟨hd, hmarker⟩, rfl⟩, rfl⟩

/-! ### Files over files -/

section

variable {render : Request → Except GenerateError Artifact} {className : String}
  {packages others : List String} {before after final : MemoryArea}

/-- **The files of an area, with the artifacts for some packages laid over them.** -/
structure Overlaid (render : Request → Except GenerateError Artifact) (className : String)
    (packages : List String) (before after : MemoryArea) : Prop where
  readOnly : after.readOnly = before.readOnly
  /-- The order of the files is kept. -/
  sorted : before.files.Sorted → after.files.Sorted
  /-- What was rendered for a package stands under its name. -/
  rendered : ∀ p ∈ packages, ∀ a, render ⟨p, className⟩ = .ok a →
    after.get? (qualifiedName p className) = some a.content
  /-- Under all other names stands what stood there. -/
  kept : ∀ name, (∀ p ∈ packages, ∀ a, render ⟨p, className⟩ = .ok a →
    name ≠ qualifiedName p className) → after.get? name = before.get? name

namespace Overlaid

theorem refl (render : Request → Except GenerateError Artifact) (className : String)
    (area : MemoryArea) : Overlaid render className [] area area where
  readOnly := rfl
  sorted := id
  rendered _ hp := absurd hp List.not_mem_nil
  kept _ _ := rfl

/-- The order of the packages and their repetition do not matter. -/
theorem congr (h : Overlaid render className packages before after)
    (hsame : ∀ p, p ∈ others ↔ p ∈ packages) : Overlaid render className others before after where
  readOnly := h.readOnly
  sorted := h.sorted
  rendered p hp := h.rendered p ((hsame p).1 hp)
  kept name hname := h.kept name fun p hp => hname p ((hsame p).2 hp)

/-- **Laying over twice** is laying over once. -/
theorem trans (h : Overlaid render className packages before after)
    (h' : Overlaid render className others after final) :
    Overlaid render className (packages ++ others) before final where
  readOnly := h'.readOnly.trans h.readOnly
  sorted hsorted := h'.sorted (h.sorted hsorted)
  rendered p hp a ha := by
    by_cases hother : p ∈ others
    · exact h'.rendered p hother a ha
    · -- the second time, no other package has this one's name
      have hp : p ∈ packages := (List.mem_append.1 hp).resolve_right hother
      have hothers : ∀ q ∈ others, ∀ b, render ⟨q, className⟩ = .ok b →
          qualifiedName p className ≠ qualifiedName q className := by
        intro q hq b _ heq
        rw [qualifiedName_inj heq] at hother
        exact hother hq
      rw [h'.kept _ hothers]
      exact h.rendered p hp a ha
  kept name hname := by
    rw [h'.kept name fun p hp => hname p (List.mem_append_right _ hp)]
    exact h.kept name fun p hp => hname p (List.mem_append_left _ hp)

/-- **What an area holds is determined** by what it was laid over and the set of packages. -/
theorem unique (h : Overlaid render className packages before after)
    (h' : Overlaid render className packages before final) (hsorted : before.files.Sorted) :
    final = after := by
  -- both have the rendered texts under the names of the packages, and the old texts elsewhere
  have hlookup : ∀ name, final.get? name = after.get? name := by
    intro name
    by_cases hname : ∃ p ∈ packages, ∃ a, render ⟨p, className⟩ = .ok a ∧
        name = qualifiedName p className
    · obtain ⟨p, hp, a, ha, rfl⟩ := hname
      rw [h.rendered p hp a ha, h'.rendered p hp a ha]
    · have hnone : ∀ p ∈ packages, ∀ a, render ⟨p, className⟩ = .ok a →
          name ≠ qualifiedName p className :=
        fun p hp a ha heq => hname ⟨p, hp, a, ha, heq⟩
      rw [h.kept name hnone, h'.kept name hnone]
  -- sorted files with the same texts under the same names are the same files
  have hfiles : final.files = after.files := (h'.sorted hsorted).ext (h.sorted hsorted) hlookup
  have hreadOnly : final.readOnly = after.readOnly := h'.readOnly.trans h.readOnly.symm
  calc final = ⟨final.files, final.readOnly⟩ := rfl
    _ = ⟨after.files, after.readOnly⟩ := by rw [hfiles, hreadOnly]

end Overlaid

/-! ### Runs -/

theorem overlaid_generate (hname : ∀ r a, render r = .ok a → a.name = r.qualifiedName)
    {area : MemoryArea} (hwritable : area.readOnly = false) (package : String) :
    Overlaid render className [package] area
      (generate render MemoryArea.output.publish ⟨package, className⟩ area).2 := by
  cases hrender : render ⟨package, className⟩ with
  | error e =>
    -- what is not rendered changes nothing, and is not asked for as a rendered text
    rw [generate_of_error hrender]
    refine ⟨rfl, id, fun p hp a ha => ?_, fun _ _ => rfl⟩
    rw [List.mem_singleton.1 hp, hrender] at ha
    contradiction
  | ok a =>
    have hown : a.name = qualifiedName package className := hname _ a hrender
    rw [generate_of_ok hrender, MemoryArea.publish_eq a hwritable]
    dsimp only
    rw [hown]
    refine ⟨rfl, fun hsorted => hsorted.put _ _, fun p hp a' ha' => ?_, fun name hother => ?_⟩
    · rw [List.mem_singleton.1 hp] at ha' ⊢
      rw [hrender] at ha'
      rw [MemoryArea.get?_put, if_pos rfl, Except.ok.inj ha']
    · rw [MemoryArea.get?_put, if_neg (hother package List.mem_cons_self a hrender)]

/-- **A run lays over the files what it was asked for**, if what was asked for earlier is laid over
them already. -/
theorem Answered.overlaid (hname : ∀ r a, render r = .ok a → a.name = r.qualifiedName)
    {earlier : List String} {asked : List (Declaration × Request)}
    {results : List (Except GenerateError String)}
    (h : Answered render MemoryArea.output.publish earlier asked after results final)
    (hasked : ∀ a ∈ asked, a.2 = ⟨a.1.package, className⟩) (hwritable : before.readOnly = false)
    (hearlier : Overlaid render className earlier before after) :
    Overlaid render className (asked.map (·.1.package) ++ earlier) before final := by
  induction h with
  | none => exact hearlier
  | @repeated earlier d r rest _ _ _ hknown hrest ih =>
    -- the package is laid over already
    have hsame : ∀ p, p ∈ d.package :: earlier ↔ p ∈ earlier := fun p =>
      ⟨fun hp => (List.mem_cons.1 hp).elim (fun heq => heq ▸ hknown) id, List.mem_cons_of_mem _⟩
    refine (ih (fun a ha => hasked a (List.mem_cons_of_mem _ ha)) (hearlier.congr hsame)).congr
      fun p => ?_
    rw [List.map_cons, List.cons_append, List.perm_middle.mem_iff]
  | @first earlier d r rest _ _ _ _ _ hnew hresult hrest ih =>
    obtain rfl : r = ⟨d.package, className⟩ := hasked (d, r) List.mem_cons_self
    -- the text of this package is laid over what came before
    have hnow := hearlier.trans
      (overlaid_generate hname (hearlier.readOnly.trans hwritable) d.package)
    rw [hresult] at hnow
    have hsame : ∀ p, p ∈ d.package :: earlier ↔ p ∈ earlier ++ [d.package] := fun p =>
      (List.perm_append_singleton d.package earlier).mem_iff.symm
    refine (ih (fun a ha => hasked a (List.mem_cons_of_mem _ ha)) (hnow.congr hsame)).congr
      fun p => ?_
    rw [List.map_cons, List.cons_append, List.perm_middle.mem_iff]

theorem overlaid_runRound (hname : ∀ r a, render r = .ok a → a.name = r.qualifiedName)
    (config : PassConfig) {area : MemoryArea} (hwritable : area.readOnly = false)
    (round : Round) :
    Overlaid render config.className ((config.matching round).map (·.1.package)) area
      (runRound config render MemoryArea.output.publish round area).2 := by
  obtain ⟨results, final, hrun, hanswered⟩ :=
    answered_runRound config render MemoryArea.output.publish round area
  rw [hrun]
  have hround := hanswered.overlaid hname request_of_mem_matching hwritable (.refl _ _ area)
  rwa [List.append_nil] at hround

end

namespace MemoryArea

/-- What a pass over rounds leaves of an area. -/
def afterPass (config : PassConfig) (render : Request → Except GenerateError Artifact)
    (rounds : List Round) (area : MemoryArea) : MemoryArea :=
  (runRounds config render output.publish rounds area).2

theorem overlaid_afterPass {render : Request → Except GenerateError Artifact}
    (hname : ∀ r a, render r = .ok a → a.name = r.qualifiedName) (config : PassConfig)
    {area : MemoryArea} (hwritable : area.readOnly = false) (rounds : List Round) :
    Overlaid render config.className (config.packages rounds) area
      (area.afterPass config render rounds) := by
  induction rounds generalizing area with
  | nil => exact Overlaid.refl _ _ area
  | cons round rest ih =>
    have hround := overlaid_runRound hname config hwritable round
    unfold afterPass
    rw [runRounds_cons, PassConfig.packages_cons]
    exact hround.trans (ih (hround.readOnly.trans hwritable))

/-- **What a pass leaves in memory depends on the set of its requests alone.** Over the files of the
area lies what was rendered for the packages that were asked for, and every other file is as it was.
So neither the order of the declarations and the rounds nor the division into rounds matters, and
passing over the same rounds again and again is passing over them once. -/
theorem afterPass_overlaid (s : Strategy) (t : ClassTemplate) (config : PassConfig)
    {area : MemoryArea} (hwritable : area.readOnly = false) (hsorted : area.files.Sorted)
    (rounds : List Round) :
    Overlaid (s.render t) config.className (config.packages rounds) area
        (area.afterPass config (s.render t) rounds) ∧
      (∀ rounds', (∀ p, p ∈ config.packages rounds' ↔ p ∈ config.packages rounds) →
        area.afterPass config (s.render t) rounds' = area.afterPass config (s.render t) rounds) ∧
      (∀ rounds', (rounds'.flatMap (·.declarations)).Perm (rounds.flatMap (·.declarations)) →
        area.afterPass config (s.render t) rounds' = area.afterPass config (s.render t) rounds) ∧
      ∀ n, (afterPass config (s.render t) rounds)^[n + 1] area =
        area.afterPass config (s.render t) rounds := by
  have hname : ∀ r a, s.render t r = .ok a → a.name = r.qualifiedName := fun _ _ =>
    Strategy.name_of_render
  have honce := overlaid_afterPass hname config hwritable rounds
  have hset : ∀ rounds', (∀ p, p ∈ config.packages rounds' ↔ p ∈ config.packages rounds) →
      area.afterPass config (s.render t) rounds' = area.afterPass config (s.render t) rounds := by
    intro rounds' hsame
    -- what lies there afterwards depends on the packages only
    have hother := overlaid_afterPass hname config hwritable rounds'
    exact honce.unique (hother.congr fun p => (hsame p).symm) hsorted
  refine ⟨honce, hset, fun rounds' hperm => hset rounds' fun p => ?_, fun n => ?_⟩
  · simp only [PassConfig.mem_packages, hperm.mem_iff]
  · induction n with
    | zero => rfl
    | succ n ih =>
      -- the last pass lays over what lies there already
      rw [Function.iterate_succ_apply', ih]
      have htwice := honce.trans
        (overlaid_afterPass hname config (honce.readOnly.trans hwritable) rounds)
      exact honce.unique (htwice.congr fun p => by rw [List.mem_append, or_self]) hsorted

/-- Two rounds over an area with a file of its own and an old one, with a repeated package and one
that has no class, and the same declarations in one round and in another order. -/
theorem afterPass_overlaid_shuffled :
    let area : MemoryArea := { files := [("a.C", "old"), ("notes", "kept")] }
    let rounds : List Round := [⟨[⟨"m", "a", none⟩, ⟨"m", "a.class", none⟩, ⟨"m", "a", some "E"⟩]⟩,
      ⟨[⟨"n", "b", none⟩, ⟨"m", "", none⟩]⟩]
    let shuffled : List Round := [⟨[⟨"m", "", none⟩, ⟨"m", "a", some "E"⟩, ⟨"m", "a.class", none⟩,
      ⟨"n", "b", none⟩, ⟨"m", "a", none⟩]⟩]
    let render := Strategy.structured.render { className := "C" }
    area.readOnly = false ∧ area.files.Sorted ∧
      (area.afterPass ⟨"m", "C"⟩ render rounds).get? "notes" = some "kept" ∧
      (area.afterPass ⟨"m", "C"⟩ render shuffled) = area.afterPass ⟨"m", "C"⟩ render rounds ∧
      (afterPass ⟨"m", "C"⟩ render rounds)^[3] area = area.afterPass ⟨"m", "C"⟩ render rounds := by
  intro area rounds shuffled render
  have hwritable : area.readOnly = false := rfl
  have hsorted : area.files.Sorted := by decide
  obtain ⟨hover, -, hperm, hagain⟩ :=
    afterPass_overlaid .structured { className := "C" } ⟨"m", "C"⟩ hwritable hsorted rounds
  refine ⟨hwritable, hsorted, ?_, hperm shuffled (by decide), hagain 2⟩
  -- the packages are a, a.class and the unnamed one
  have hnames : ∀ p ∈ ["a", "a.class", "a", ""], "notes" ≠ qualifiedName p "C" := by decide
  exact hover.kept "notes" fun p hp _ _ => hnames p hp

end MemoryArea

end Stencil
