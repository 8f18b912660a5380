import Stencil.Proofs.Output.Publishing
import Stencil.Proofs.Pass.InStep

/-!
# Rounds do not see each other

A pass in memory goes over its rounds with one area, so every round is handed the files that were
there and the files of all rounds before it. None of that shows in what becomes of the round. The
argument compares two runs of the *same* rounds over two areas that have nothing in common but that
both are writable: publishing succeeds in either, whatever they hold, and leaves either writable
(`inStep_writable`). The runs go in step, results are related by equality, and so the outcomes are
equal. Comparing the area that a round is handed with an empty one then tells what the round does
alone (`rounds_independent`).
-/

namespace Stencil

namespace MemoryArea

/-- **Two writable areas go in step** with equal results, whatever they hold. -/
theorem inStep_writable (render : Request → Except GenerateError Artifact) :
    InStep render output.publish output.publish
      (fun area area' => area.readOnly = false ∧ area'.readOnly = false) (· = ·) where
  duplicate _ _ := rfl
  generate := by
    rintro r area area' ⟨hwritable, hwritable'⟩
    cases hr : render r with
    | error e =>
      rw [generate_of_error hr, generate_of_error hr]
      exact ⟨rfl, hwritable, hwritable'⟩
    | ok a =>
      -- a writable area takes every artifact, whatever it holds
      rw [generate_of_ok hr, generate_of_ok hr, publish_eq a hwritable, publish_eq a hwritable']
      exact ⟨rfl, hwritable, hwritable'⟩

variable {render : Request → Except GenerateError Artifact} {area area' : MemoryArea}

/-- A round has one outcome over all writable areas, and leaves an area writable. -/
theorem runRound_writable (config : PassConfig) (round : Round) (h : area.readOnly = false)
    (h' : area'.readOnly = false) :
    (runRound config render output.publish round area).1 =
        (runRound config render output.publish round area').1 ∧
      (runRound config render output.publish round area).2.readOnly = false := by
  obtain ⟨houtcome, hnext, -⟩ := (inStep_writable render).runRound config round ⟨h, h'⟩
  exact ⟨houtcome.eq, hnext⟩

/-- **Rounds are independent.** What becomes of the rounds of a pass over a writable area is, round
by round, what becomes of the round alone over an empty one: whether it was claimed, what was
written, and every failure. Neither the rounds before it, nor their failures, nor the files of the
area make a difference. -/
theorem rounds_independent (s : Strategy) (t : ClassTemplate) (config : PassConfig)
    (hwritable : area.readOnly = false) (rounds : List Round) :
    (runRounds config (s.render t) output.publish rounds area).1 =
      rounds.map fun round => (runRound config (s.render t) output.publish round {}).1 := by
  -- the induction is over the rounds, with any area that the first of them may be handed
  induction rounds generalizing area with
  | nil => rfl
  | cons round rest ih =>
    obtain ⟨halone, hnext⟩ :=
      @runRound_writable (s.render t) area {} config round hwritable rfl
    rw [runRounds_cons, List.map_cons, ← halone, ← ih hnext]

/-- The same package in two rounds with a package in between that has no class, and an area that
has a file of that name already. -/
theorem rounds_independent_recurring :
    let render := Strategy.structured.render { className := "C" }
    let area : MemoryArea := { files := [("a.C", "old")] }
    let first : Round := ⟨[⟨"m", "a", none⟩, ⟨"m", "a.class", some "D"⟩, ⟨"m", "a", some "E"⟩]⟩
    let second : Round := ⟨[⟨"m", "a", none⟩]⟩
    let alone round := (runRound ⟨"m", "C"⟩ render output.publish round {}).1
    area.readOnly = false ∧
      (runRounds ⟨"m", "C"⟩ render output.publish [first, ⟨[]⟩, second] area).1 =
        [alone first, alone ⟨[]⟩, alone second] := by
  intro render area first second alone
  have hwritable : area.readOnly = false := rfl
  refine ⟨hwritable, ?_⟩
  exact rounds_independent .structured { className := "C" } ⟨"m", "C"⟩ hwritable
    [first, ⟨[]⟩, second]

end MemoryArea

end Stencil
