import Stencil.Text.Space

/-!
# Words and trimming

How `words` and `trim` act on a text that is put together from parts. White space between two parts
is a border that no word crosses (`words_append_space`), and white space at either end of a text is
lost to trimming (`trim_space_append`, `trim_append_space`). A text that begins and ends with
something else is its own trim (`trim_eq_self`), and no other text is (`ends_of_trim_eq_self`).

`Spaces ws` says that `ws` holds nothing but white space. It is the shape of all layout that may
stand around a declaration.
-/

namespace Stencil.Text

/-- Nothing but white space. -/
def Spaces (ws : List Char) : Prop :=
  ∀ c ∈ ws, isSpace c = true

instance : DecidablePred Spaces := fun _ => decidable_of_iff _ List.all_eq_true

/-- Not a single white space. -/
def Solid (w : List Char) : Prop :=
  ∀ c ∈ w, isSpace c = false

instance : DecidablePred Solid := fun w =>
  List.decidableBAll (fun c => isSpace c = false) w

@[simp] theorem Spaces.nil : Spaces [] :=
  fun _ h => absurd h (List.not_mem_nil)

theorem Spaces.append {u v : List Char} (hu : Spaces u) (hv : Spaces v) : Spaces (u ++ v) := by
  intro c hc
  rcases List.mem_append.1 hc with h | h
  · exact hu c h
  · exact hv c h

theorem Spaces.cons {c : Char} {u : List Char} (hc : isSpace c = true) (hu : Spaces u) :
    Spaces (c :: u) := by
  intro d hd
  rcases List.mem_cons.1 hd with rfl | h
  · exact hc
  · exact hu d h

theorem Spaces.reverse {u : List Char} (hu : Spaces u) : Spaces u.reverse :=
  fun c hc => hu c (List.mem_reverse.1 hc)

theorem spaces_replicate (n : Nat) : Spaces (List.replicate n ' ') := by
  intro c hc
  rw [(List.mem_replicate.1 hc).2]
  rfl

theorem spaces_lineFeed : Spaces ['\n'] := by decide

/-! ### Words -/

/-- White space parts the words before it from those behind it. -/
theorem words_append_space {c : Char} (hc : isSpace c = true) (u v : List Char) :
    words (u ++ c :: v) = words u ++ words v := by
  unfold words
  rw [List.splitOnP_append_cons u v hc, List.filter_append]

/-- White space at the front belongs to no word. -/
theorem words_cons_space {c : Char} (hc : isSpace c = true) (v : List Char) :
    words (c :: v) = words v := by
  have h := words_append_space hc [] v
  rwa [words_nil, List.nil_append, List.nil_append] at h

/-- A text without white space is a word. -/
theorem words_solid {w : List Char} (hne : w ≠ []) (hw : Solid w) : words w = [w] := by
  -- the only piece is the text itself, which the filter for empty pieces keeps
  unfold words
  rw [List.splitOnP_eq_singleton hw, List.filter_cons_of_pos, List.filter_nil]
  rw [Bool.not_eq_true', List.isEmpty_eq_false_iff]
  exact hne

/-- A text with no word in it is white space. -/
theorem spaces_of_words_eq_nil {s : List Char} (h : words s = []) : Spaces s := by
  induction s with
  | nil => exact Spaces.nil
  | cons c rest ih =>
    cases hc : isSpace c with
    -- white space before a text adds no word
    | true => exact Spaces.cons hc (ih (by rwa [words_cons_space hc] at h))
    | false =>
      -- the piece that `c` begins is not empty, so the filter keeps it
      exfalso
      unfold words at h
      rw [List.splitOnP_cons_eq_if_modifyHead, if_neg (by simp [hc])] at h
      obtain ⟨first, others, hsplit⟩ :=
        List.exists_cons_of_ne_nil (List.splitOnP_ne_nil isSpace rest)
      rw [hsplit, List.modifyHead_cons, List.filter_cons_of_pos (by rfl)] at h
      exact List.cons_ne_nil _ _ h

theorem words_of_spaces {ws : List Char} (h : Spaces ws) : words ws = [] := by
  induction ws with
  | nil => exact words_nil
  | cons c ws ih =>
    rw [words_cons_space (h c List.mem_cons_self), ih fun d hd => h d (List.mem_cons_of_mem _ hd)]

/-- White space in front holds no words. -/
theorem words_spaces_append {ws : List Char} (h : Spaces ws) (s : List Char) :
    words (ws ++ s) = words s := by
  induction ws with
  | nil => rfl
  | cons c ws ih =>
    rw [List.cons_append, words_cons_space (h c List.mem_cons_self),
      ih fun d hd => h d (List.mem_cons_of_mem _ hd)]

/-- White space behind holds no words. -/
theorem words_append_spaces {ws : List Char} (h : Spaces ws) (s : List Char) :
    words (s ++ ws) = words s := by
  cases ws with
  | nil => rw [List.append_nil]
  | cons c ws =>
    rw [words_append_space (h c List.mem_cons_self),
      words_of_spaces fun d hd => h d (List.mem_cons_of_mem _ hd), List.append_nil]

/-! ### Trimming -/

theorem spaces_takeWhile (s : List Char) : Spaces (s.takeWhile isSpace) :=
  List.all_eq_true.1 List.all_takeWhile

/-- A text is its trim with white space around it. -/
theorem exists_trim (s : List Char) : ∃ u v, Spaces u ∧ Spaces v ∧ s = u ++ (trim s ++ v) := by
  refine ⟨s.takeWhile isSpace, ((trimStart s).reverse.takeWhile isSpace).reverse,
    spaces_takeWhile s, (spaces_takeWhile _).reverse, ?_⟩
  unfold trim trimEnd
  -- the end is the start of the reversed text
  rw [← List.reverse_append, List.takeWhile_append_dropWhile, List.reverse_reverse]
  exact List.takeWhile_append_dropWhile.symm

/-- Trimming loses no words. -/
theorem words_trim (s : List Char) : words (trim s) = words s := by
  obtain ⟨u, v, hu, hv, hs⟩ := exists_trim s
  rw [congrArg words hs, words_spaces_append hu, words_append_spaces hv]

/-- White space in front is lost. -/
theorem trim_space_append {ws : List Char} (h : Spaces ws) (s : List Char) :
    trim (ws ++ s) = trim s := by
  unfold trim trimStart
  rw [List.dropWhile_append_of_pos h]

/-- White space behind is lost. -/
theorem trim_append_space {ws : List Char} (h : Spaces ws) (s : List Char) :
    trim (s ++ ws) = trim s := by
  unfold trim trimStart
  rw [List.dropWhile_append]
  split
  · next hs =>
    -- there is nothing but white space before `ws` either
    rw [List.isEmpty_iff.1 hs, ← List.append_nil ws, List.dropWhile_append_of_pos h]
    rfl
  · unfold trimEnd
    rw [List.reverse_append, List.dropWhile_append_of_pos h.reverse]

/-- Nothing is trimmed off a text that begins and ends with a character of a word. -/
theorem trim_eq_self {s : List Char} (hhead : ∀ c ∈ s.head?, isSpace c = false)
    (hlast : ∀ c ∈ s.getLast?, isSpace c = false) : trim s = s := by
  have hstart : trimStart s = s := by
    cases s with
    | nil => rfl
    | cons c rest => exact List.dropWhile_cons_of_neg (by simp [hhead c rfl])
  unfold trim
  rw [hstart]
  unfold trimEnd
  -- the last character is the first one of the reversed text
  cases hr : s.reverse with
  | nil => rw [List.reverse_eq_nil_iff.1 hr]; rfl
  | cons c rest =>
    have hc : c ∈ s.getLast? := by
      rw [← List.head?_reverse, hr]
      rfl
    rw [List.dropWhile_cons_of_neg (by simp [hlast c hc]), ← hr, List.reverse_reverse]

theorem length_trim_le (s : List Char) : (trim s).length ≤ s.length := by
  obtain ⟨u, v, -, -, hs⟩ := exists_trim s
  have hlength := congrArg List.length hs
  rw [List.length_append, List.length_append] at hlength
  omega

/-- A text of which nothing is trimmed off begins and ends with a character of a word. -/
theorem ends_of_trim_eq_self {s : List Char} (h : trim s = s) :
    (∀ c ∈ s.head?, isSpace c = false) ∧ ∀ c ∈ s.getLast?, isSpace c = false := by
  -- without the white space at an end the text would be its own trim and shorter than it is
  constructor
  · intro c hc
    obtain ⟨rest, rfl⟩ := List.head?_eq_some_iff.1 hc
    rw [Bool.eq_false_iff]
    intro hspace
    have hle := length_trim_le rest
    rw [← trim_space_append (Spaces.cons hspace Spaces.nil), List.singleton_append, h,
      List.length_cons] at hle
    omega
  · intro c hc
    obtain ⟨init, rfl⟩ := List.getLast?_eq_some_iff.1 hc
    rw [Bool.eq_false_iff]
    intro hspace
    have hle := length_trim_le init
    rw [← trim_append_space (Spaces.cons hspace Spaces.nil), h, List.length_append,
      List.length_singleton] at hle
    omega

end Stencil.Text
