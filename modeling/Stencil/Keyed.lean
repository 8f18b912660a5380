/-!
# Things under names

Lists of named things in ascending order of their names. `put` places a thing under a name, in the
stead of what was there; what then stands under a name is told by `lookup_put`.
-/

namespace Stencil

/-- Things under names, in ascending order of the names. -/
abbrev Keyed (α : Type) : Type :=
  List (String × α)

namespace Keyed

variable {α : Type}

/-- The list with a thing under a name. -/
def put (name : String) (thing : α) : Keyed α → Keyed α
  | [] => [(name, thing)]
  | (n, t) :: rest =>
    if name < n then (name, thing) :: (n, t) :: rest
    else if name = n then (name, thing) :: rest
    else (n, t) :: put name thing rest

/-- The names in use. -/
def names (things : Keyed α) : List String :=
  things.map (·.1)

@[simp] theorem put_nil (name : String) (thing : α) : put name thing [] = [(name, thing)] := rfl

theorem lookup_cons (name other : String) (thing : α) (rest : Keyed α) :
    ((name, thing) :: rest).lookup other =
      if other = name then some thing else rest.lookup other := by
  rw [List.lookup_cons]
  by_cases h : other = name
  · simp [h]
  · simp [h, beq_false_of_ne h]

/-- Placing a thing changes what stands under its name, and nothing else. -/
@[simp] theorem lookup_put (name other : String) (thing : α) (things : Keyed α) :
    (put name thing things).lookup other =
      if other = name then some thing else things.lookup other := by
  induction things with
  | nil => simp only [put, lookup_cons, List.lookup_nil]
  | cons entry rest ih =>
    obtain ⟨n, t⟩ := entry
    rw [put]
    split
    · simp only [lookup_cons]
    split
    · subst name
      simp only [lookup_cons]
      split <;> rfl
    · simp only [lookup_cons, ih]
      grind

/-- The names in use after placing a thing. -/
theorem mem_names_put {name other : String} {thing : α} {things : Keyed α} :
    other ∈ names (put name thing things) ↔ other = name ∨ other ∈ names things := by
  induction things with
  | nil => simp [names]
  | cons entry rest ih =>
    obtain ⟨n, t⟩ := entry
    simp only [names] at ih
    by_cases h1 : name < n
    · simp [put, names, h1]
    by_cases h2 : name = n
    · subst h2
      simp [put, names]
    · simp only [put, names, h1, h2, if_false, List.map_cons, List.mem_cons, ih]
      grind

end Keyed

end Stencil
