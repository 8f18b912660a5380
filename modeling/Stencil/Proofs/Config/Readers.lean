import Stencil.Config.Reader

/-!
# What readers read

`Reads` says what a reader makes of the front of a text and what it leaves. Readers in sequence read
in sequence (`Reads.bind`), so what a reader reads is told from what its parts read.

A repetition reads what its steps read one after the other (`Steps`). The bound that
`Reader.repeated` goes by is never felt if each step takes a character (`Steps.reads_many`).
-/

namespace Stencil.Config.Reader

variable {α β : Type} {a : α} {b : β} {s s' s'' : List Char} {reader : Reader α}

/-- A reader makes something of the front of a text and leaves the rest. -/
def Reads (reader : Reader α) (s : List Char) (a : α) (rest : List Char) : Prop :=
  reader s = some (a, rest)

theorem Reads.pure (a : α) (s : List Char) : Reads (Pure.pure a) s a s :=
  rfl

/-- **Readers in sequence** read one behind the other. -/
theorem Reads.bind {next : α → Reader β} (h : Reads reader s a s')
    (hnext : Reads (next a) s' b s'') : Reads (reader >>= next) s b s'' := by
  have hbind : (reader >>= next) s = (reader s).bind fun found => next found.1 found.2 := rfl
  unfold Reads at *
  rw [hbind, h]
  exact hnext

theorem Reads.map (h : Reads reader s a s') (f : α → β) : Reads (f <$> reader) s (f a) s' := by
  have hmap : (f <$> reader) s = (reader s).bind fun found => some (f found.1, found.2) := rfl
  unfold Reads at *
  rw [hmap, h]
  rfl

theorem reads_guard {p : Prop} [Decidable p] (h : p) (s : List Char) :
    Reads (guard p) s () s := by
  unfold guard
  rw [if_pos h]
  exact Reads.pure () s

/-! ### Single characters -/

theorem reads_take (c : Char) (s : List Char) : Reads (take c) (c :: s) () s := by
  show (if c = c then some ((), s) else none) = _
  rw [if_pos rfl]

theorem reads_takeIf (c : Char) (s : List Char) : Reads (takeIf c) (c :: s) true s := by
  show (if c = c then some (true, s) else some (false, c :: s)) = _
  rw [if_pos rfl]

theorem reads_takeIf_of_ne {c d : Char} (h : d ≠ c) (s : List Char) :
    Reads (takeIf c) (d :: s) false (d :: s) := by
  show (if d = c then some (true, s) else some (false, d :: s)) = _
  rw [if_neg h]

theorem reads_peek? (c : Char) (s : List Char) : Reads peek? (c :: s) (some c) (c :: s) :=
  rfl

theorem reads_next (c : Char) (s : List Char) : Reads next (c :: s) c s :=
  rfl

theorem reads_atEnd (c : Char) (s : List Char) : Reads atEnd (c :: s) false (c :: s) :=
  rfl

/-- A run goes on up to the first character of another kind. -/
theorem reads_run {kind : Char → Bool} {u : List Char} (hu : ∀ c ∈ u, kind c = true) {c : Char}
    (hc : kind c = false) (s : List Char) : Reads (run kind) (u ++ c :: s) u (c :: s) := by
  have htake : (u ++ c :: s).takeWhile kind = u := by
    rw [List.takeWhile_append_of_pos hu, List.takeWhile_cons_of_neg (Bool.eq_false_iff.1 hc),
      List.append_nil]
  have hdrop : (u ++ c :: s).dropWhile kind = c :: s := by
    rw [List.dropWhile_append_of_pos hu, List.dropWhile_cons_of_neg (Bool.eq_false_iff.1 hc)]
  unfold Reads run
  rw [htake, hdrop]

/-! ### Repetitions -/

/-- **The steps of a repetition** up to the one that yields nothing. Each of the others takes a
character at least. -/
inductive Steps (step : Reader (Option α)) : List Char → List α → List Char → Prop
  | done {s s' : List Char} (h : Reads step s none s') : Steps step s [] s'
  | more {s s' s'' : List Char} {a : α} {as : List α} (h : Reads step s (some a) s')
      (hlt : s'.length < s.length) (hrest : Steps step s' as s'') : Steps step s (a :: as) s''

variable {step : Reader (Option α)} {as : List α}

theorem Steps.reads_repeated (h : Steps step s as s') {bound : List Char}
    (hle : s.length ≤ bound.length) : Reads (repeated step bound) s as s' := by
  induction h generalizing bound with
  -- the reader stops, whether the bound is used up or not
  | done h =>
    cases bound with
    | nil => exact h.bind (Reads.pure _ _)
    | cons c bound => exact h.bind (Reads.pure _ _)
  | more h hlt hrest ih =>
    cases bound with
    | nil => exact absurd hle (Nat.not_le.2 (Nat.lt_of_le_of_lt (Nat.zero_le _) hlt))
    | cons c bound =>
      -- the step has taken a character, so the rest of the bound is enough for the rest
      have hbound := Nat.le_of_lt_succ (Nat.lt_of_lt_of_le hlt hle)
      exact h.bind ((ih hbound).bind (Reads.pure _ _))

/-- **A repetition reads what its steps read.** -/
theorem Steps.reads_many (h : Steps step s as s') : Reads (many step) s as s' :=
  h.reads_repeated (Nat.le_refl _)

theorem whole_eq_some (h : Reads reader s a []) : reader.whole s = some a := by
  unfold Reads at h
  unfold whole
  rw [h]

end Stencil.Config.Reader
