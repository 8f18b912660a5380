/-!
# Totals

The total of a measure over a list: how many declarations the rounds of a feed have together, how
many bytes the characters of a text take. Totals add up along a list (`total_append`).
-/

namespace Stencil

variable {α : Type}

/-- The sum of what a measure gives for the members of a list. -/
def total (measure : α → Nat) : List α → Nat
  | [] => 0
  | a :: rest => measure a + total measure rest

@[simp] theorem total_nil (measure : α → Nat) : total measure [] = 0 := rfl

@[simp] theorem total_cons (measure : α → Nat) (a : α) (rest : List α) :
    total measure (a :: rest) = measure a + total measure rest := rfl

@[simp] theorem total_append (measure : α → Nat) (l m : List α) :
    total measure (l ++ m) = total measure l + total measure m := by
  induction l with
  | nil => simp
  | cons a rest ih => simp [ih, Nat.add_assoc]

theorem total_eq_zero_iff {measure : α → Nat} {l : List α} :
    total measure l = 0 ↔ ∀ a ∈ l, measure a = 0 := by
  induction l with
  | nil => simp
  | cons a rest ih => rw [total_cons, Nat.add_eq_zero_iff, ih, List.forall_mem_cons]

theorem length_flatMap_eq_total {β : Type} (f : α → List β) (l : List α) :
    (l.flatMap f).length = total (fun a => (f a).length) l := by
  induction l with
  | nil => rfl
  | cons a rest ih => rw [List.flatMap_cons, List.length_append, ih, total_cons]

end Stencil
