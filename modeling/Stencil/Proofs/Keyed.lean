import Mathlib.Data.List.Sort
import Stencil.Keyed

/-!
# Lists of named things in order

`Sorted` is what `Keyed` lists are: their names ascend. `Keyed.put` keeps it so, and then a list is
what its look-ups tell (`Sorted.ext`): two sorted lists in which every name leads to the same thing
are one list, in whatever order their things were put there.
-/

namespace Stencil.Keyed

variable {α : Type} {things : Keyed α}

/-- Names in ascending order, so none stands twice. -/
def Sorted (things : Keyed α) : Prop :=
  things.Pairwise (·.1 < ·.1)

instance : Decidable (Sorted things) :=
  inferInstanceAs (Decidable (things.Pairwise (·.1 < ·.1)))

/-- No name stands twice. -/
theorem Sorted.nodup_names (h : Sorted things) : things.names.Nodup := by
  refine List.pairwise_map.2 (h.imp fun hlt heq => ?_)
  rw [heq] at hlt
  exact String.lt_irrefl _ hlt

theorem Sorted.put (h : Sorted things) (name : String) (thing : α) :
    Sorted (things.put name thing) := by
  induction things with
  | nil => exact List.pairwise_singleton _ _
  | cons entry rest ih =>
    obtain ⟨n, t⟩ := entry
    obtain ⟨hfirst, hrest⟩ := List.pairwise_cons.1 h
    rw [Keyed.put]
    split
    · -- the name comes before all that are there
      next hbefore =>
      refine List.pairwise_cons.2 ⟨fun e he => ?_, h⟩
      rcases List.mem_cons.1 he with rfl | he
      · exact hbefore
      · exact String.lt_trans hbefore (hfirst e he)
    split
    · -- the name is there and keeps its place
      next hsame =>
      subst hsame
      exact List.pairwise_cons.2 ⟨hfirst, hrest⟩
    · next hnot hother =>
      -- the new name comes behind the first one, like all others
      have hbehind : n < name :=
        (Std.lt_trichotomy n name).resolve_right fun hge =>
          hge.elim (fun heq => hother heq.symm) hnot
      refine List.pairwise_cons.2 ⟨fun e he => ?_, ih hrest⟩
      have hname : e.1 ∈ names (Keyed.put name thing rest) := List.mem_map_of_mem he
      rcases mem_names_put.1 hname with heq | hold
      · rw [heq]
        exact hbehind
      · obtain ⟨e', he', heq⟩ := List.mem_map.1 hold
        rw [← heq]
        exact hfirst e' he'

theorem Sorted.mem_iff_lookup (h : Sorted things) {name : String} {thing : α} :
    (name, thing) ∈ things ↔ things.lookup name = some thing := by
  induction things generalizing thing with
  | nil => simp
  | cons entry rest ih =>
    obtain ⟨n, t⟩ := entry
    obtain ⟨hfirst, hrest⟩ := List.pairwise_cons.1 h
    rw [lookup_cons, List.mem_cons, ih hrest, Prod.mk.injEq]
    split
    · next hname =>
      -- the first name does not come again
      subst hname
      have hnone : rest.lookup name = none := by
        refine Option.eq_none_iff_forall_ne_some.2 fun t' hsome => ?_
        exact String.lt_irrefl name (hfirst (name, t') ((ih hrest).2 hsome))
      rw [hnone, Option.some.injEq]
      simp [eq_comm]
    · next hname => simp [hname]

/-- **A sorted list is what its look-ups tell.** -/
theorem Sorted.ext {others : Keyed α} (h : Sorted things) (hothers : Sorted others)
    (hlookup : ∀ name, things.lookup name = others.lookup name) : things = others := by
  have hirrefl : Std.Irrefl fun a b : String × α => a.1 < b.1 :=
    ⟨fun a => String.lt_irrefl a.1⟩
  have hantisymm : Std.Antisymm fun a b : String × α => a.1 < b.1 :=
    ⟨fun _ _ hab hba => absurd hba (String.lt_asymm hab)⟩
  refine List.Pairwise.eq_of_mem_iff h hothers fun ⟨name, thing⟩ => ?_
  rw [h.mem_iff_lookup, hothers.mem_iff_lookup, hlookup]

end Stencil.Keyed
