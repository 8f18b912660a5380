import Stencil.Java.Comment
import Stencil.Java.RawText
import Stencil.Layout
import Stencil.Proofs.Text.Pieces

/-!
# What comment stripping leaves

`stripFrom` looks one character ahead, so it does not distribute over `++`. It does at the end of a
line: a line feed is never part of an opening or a closing of a comment. The lemmas here say what a
line of a known shape leaves when any text follows it.

* A line without `/*` loses its line comment and keeps the rest (`stripFrom_code_append`). What is
  left is `withoutLineComments`, which knows of nothing but lines and `//`.
* A documentation comment whose text has no `*/` leaves the line feed behind it, in the layout of a
  page (`stripFrom_docChars`) and in that of a raw text (`stripFrom_docText`). On a page, a comment
  whose text does have one leaves what it leaves, and a line feed (`exists_strip_docChars`).
-/

namespace Stencil.Java

/-! ### Line comments -/

/-- What is left of a line before the first `//`. -/
def cutLine : List Char → List Char
  | '/' :: '/' :: _ => []
  | c :: rest => c :: cutLine rest
  | [] => []

/-- A text whose every line ends before its first `//`. -/
def withoutLineComments (text : List Char) : List Char :=
  ['\n'].intercalate ((text.splitOn '\n').map cutLine)

/-- Line comments are cut off line by line. -/
theorem withoutLineComments_append (u v : List Char) :
    withoutLineComments (u ++ '\n' :: v) =
      withoutLineComments u ++ '\n' :: withoutLineComments v := by
  have hne : ∀ s : List Char, (s.splitOn '\n').map cutLine ≠ [] := fun s h =>
    List.splitOn_ne_nil '\n' s (List.map_eq_nil_iff.1 h)
  unfold withoutLineComments
  rw [List.splitOn_append_cons_self, List.map_append,
    Text.intercalate_append (hne u) (hne v), List.append_assoc, List.singleton_append]

theorem withoutLineComments_line {line : List Char} (h : '\n' ∉ line) :
    withoutLineComments line = cutLine line := by
  unfold withoutLineComments
  rw [List.splitOn_eq_singleton h, List.map_singleton, List.intercalate_singleton]

/-! ### One character of code -/

/-- A character that opens no comment stays. -/
theorem stripFrom_code_cons {c : Char} (hc : c ≠ '/') (rest : List Char) :
    stripFrom .code (c :: rest) = c :: stripFrom .code rest := by
  simp [stripFrom, hc]

/-- A slash opens no comment before a character that is neither a slash nor a star. -/
theorem stripFrom_code_slash {c : Char} (h1 : c ≠ '/') (h2 : c ≠ '*') (rest : List Char) :
    stripFrom .code ('/' :: c :: rest) = '/' :: stripFrom .code (c :: rest) := by
  simp [stripFrom, h1, h2]

/-- A text without a slash has no comment. -/
theorem stripFrom_code_append_of_not_mem {u : List Char} (h : '/' ∉ u) (rest : List Char) :
    stripFrom .code (u ++ rest) = u ++ stripFrom .code rest := by
  induction u with
  | nil => rfl
  | cons c u ih =>
    rw [List.mem_cons, not_or] at h
    rw [List.cons_append, stripFrom_code_cons (fun hc => h.1 hc.symm), ih h.2, List.cons_append]

theorem stripComments_of_not_mem {u : List Char} (h : '/' ∉ u) : stripComments u = u := by
  have hu := stripFrom_code_append_of_not_mem h []
  rwa [List.append_nil, stripFrom_nil, List.append_nil] at hu

/-! ### Lines of code -/

/-- A line comment ends before the line feed. -/
theorem stripFrom_line_append {w : List Char} (h : '\n' ∉ w) (rest : List Char) :
    stripFrom .line (w ++ '\n' :: rest) = '\n' :: stripFrom .code rest := by
  induction w with
  | nil => rfl
  | cons c w ih =>
    -- `c` is no line feed, so it is skipped
    rw [List.mem_cons, not_or] at h
    rw [List.cons_append, stripFrom, if_neg (fun hc => h.1 hc.symm), ih h.2]

/-- A line without `/*` loses its line comment. -/
theorem stripFrom_code_line {w : List Char} (hline : '\n' ∉ w) (hopen : ¬ ['/', '*'] <:+: w)
    (rest : List Char) :
    stripFrom .code (w ++ '\n' :: rest) = cutLine w ++ '\n' :: stripFrom .code rest := by
  fun_induction cutLine w with
  | case1 w =>
    -- a `//`: the rest of the line is skipped
    rw [List.mem_cons, List.mem_cons, not_or, not_or] at hline
    exact stripFrom_line_append hline.2.2 rest
  | case2 c w hnot ih =>
    rw [List.mem_cons, not_or] at hline
    have hw : ¬ ['/', '*'] <:+: w := fun h => hopen (h.trans (List.suffix_cons c w).isInfix)
    have ih' := ih hline.2 hw
    by_cases hc : c = '/'
    · subst hc
      cases w with
      | nil =>
        -- a slash at the end of the line stands before the line feed
        rw [List.singleton_append, stripFrom_code_slash (by decide) (by decide)]
        exact congrArg ('/' :: ·) ih'
      | cons d w =>
        -- `d` is not a star, or the line would have `/*`, and no slash, or it would be cut here
        have hstar : d ≠ '*' := by
          rintro rfl
          exact hopen (List.prefix_append ['/', '*'] w).isInfix
        have hslash : d ≠ '/' := by
          rintro rfl
          exact hnot w rfl rfl
        rw [List.cons_append, List.cons_append, stripFrom_code_slash hslash hstar]
        exact congrArg ('/' :: ·) ih'
    · rw [List.cons_append, stripFrom_code_cons hc, ih', List.cons_append]
  | case3 => rfl

/-- **Lines without `/*` lose their line comments**, whatever follows them. -/
theorem stripFrom_code_append (s : List Char) (hopen : ¬ ['/', '*'] <:+: s) (rest : List Char) :
    stripFrom .code (s ++ '\n' :: rest) =
      withoutLineComments s ++ '\n' :: stripFrom .code rest := by
  by_cases hnl : '\n' ∈ s
  · -- take the first line off
    obtain ⟨line, others, rfl, hline⟩ := List.eq_append_cons_of_mem hnl
    have h1 : ¬ ['/', '*'] <:+: line := fun h =>
      hopen (h.trans (List.prefix_append line _).isInfix)
    have h2 : ¬ ['/', '*'] <:+: others := fun h =>
      hopen (h.trans ((List.suffix_cons '\n' others).trans (List.suffix_append line _)).isInfix)
    rw [List.append_assoc, List.cons_append, stripFrom_code_line hline h1,
      stripFrom_code_append others h2 rest, withoutLineComments_append,
      withoutLineComments_line hline, List.append_assoc, List.cons_append]
  · -- there is no second line, so this is the case of one line
    rw [stripFrom_code_line hnl hopen, withoutLineComments_line hnl]
termination_by s.length
decreasing_by
  rw [‹s = _›, List.length_append, List.length_cons]
  omega

/-! ### Borders -/

/-- **A line feed is a border.** Behind it a text is in code or in a block comment, and what is left
of the text before it does not depend on what follows. -/
theorem exists_strip_line (state : CommentState) (u : List Char) :
    ∃ left state', (state' = .code ∨ state' = .block false) ∧
      ∀ rest, stripFrom state (u ++ '\n' :: rest) = left ++ stripFrom state' rest := by
  -- one case for each way to go on; the state behind the line feed is that of the last one
  fun_induction stripFrom state u with
  | case1 u ih => exact ih
  | case2 u ih => exact ih
  | case3 c u hopen hline ih =>
    obtain ⟨left, state', hstate, hleft⟩ := ih
    refine ⟨c :: left, state', hstate, fun rest => ?_⟩
    rw [List.cons_append, List.cons_append, ← hleft]
    by_cases hc : c = '/'
    · subst hc
      cases u with
      | nil => exact stripFrom_code_slash (by decide) (by decide) rest
      | cons d u =>
        -- a star or a slash here would have opened a comment
        have hstar : d ≠ '*' := fun hd => hopen u rfl (by rw [hd])
        have hslash : d ≠ '/' := fun hd => hline u rfl (by rw [hd])
        exact stripFrom_code_slash hslash hstar (u ++ '\n' :: rest)
    · exact stripFrom_code_cons hc (u ++ '\n' :: rest)
  | case4 u ih =>
    obtain ⟨left, state', hstate, hleft⟩ := ih
    refine ⟨'\n' :: left, state', hstate, fun rest => ?_⟩
    rw [List.cons_append, stripFrom, if_pos rfl, hleft, List.cons_append]
  | case5 c u hc ih =>
    obtain ⟨left, state', hstate, hleft⟩ := ih
    refine ⟨left, state', hstate, fun rest => ?_⟩
    rw [List.cons_append, stripFrom, if_neg hc, hleft]
  | case6 afterStar c u hclose ih =>
    obtain ⟨left, state', hstate, hleft⟩ := ih
    refine ⟨left, state', hstate, fun rest => ?_⟩
    rw [List.cons_append, stripFrom, if_pos hclose, hleft]
  | case7 afterStar c u hclose ih =>
    obtain ⟨left, state', hstate, hleft⟩ := ih
    refine ⟨left, state', hstate, fun rest => ?_⟩
    rw [List.cons_append, stripFrom, if_neg hclose, hleft]
  | case8 state =>
    cases state with
    | code =>
      exact ⟨['\n'], .code, Or.inl rfl, fun rest => stripFrom_code_cons (by decide) rest⟩
    | line => exact ⟨['\n'], .code, Or.inl rfl, fun rest => rfl⟩
    | block afterStar =>
      -- a line feed is no slash, so the comment goes on, and no star, so none is open
      refine ⟨[], .block false, Or.inr rfl, fun rest => ?_⟩
      rw [List.nil_append, List.nil_append, stripFrom, if_neg (fun h => absurd h.2 (by decide))]
      rfl

/-! ### Block comments -/

/-- Behind a star, a text without `*/` goes on with no slash. -/
theorem head_ne_slash {c : Char} {body : List Char} (h : ¬ ['*', '/'] <:+: c :: body)
    (hc : c = '*') : body.head? ≠ some '/' := by
  subst hc
  intro hhead
  obtain ⟨rest, rfl⟩ := List.head?_eq_some_iff.1 hhead
  exact h (List.prefix_append ['*', '/'] rest).isInfix

section

variable {c e : Char} {body : List Char} {afterStar : Bool}

/-- **A character of a block comment is skipped** where the comment is not closed, and then it is
not closed behind the character either. -/
theorem stripFrom_block_cons (hclose : ¬ ['*', '/'] <:+: c :: body)
    (hstart : afterStar = true → (c :: body).head? ≠ some '/') (rest : List Char) :
    stripFrom (.block afterStar) (c :: rest) = stripFrom (.block (decide (c = '*'))) rest ∧
      ¬ ['*', '/'] <:+: body ∧ (decide (c = '*') = true → body.head? ≠ some '/') := by
  have hnot : ¬ (afterStar = true ∧ c = '/') := by
    rintro ⟨hs, rfl⟩
    exact hstart hs rfl
  refine ⟨?_, fun h => hclose (h.trans (List.suffix_cons c body).isInfix), fun hc => ?_⟩
  · rw [stripFrom, if_neg hnot]
  · exact head_ne_slash hclose (of_decide_eq_true hc)

variable (hclose : ¬ ['*', '/'] <:+: body) (hstart : afterStar = true → body.head? ≠ some '/')

include hclose hstart

/-- A part of a block comment without `*/` is skipped, together with a character behind it that
could not close the comment. -/
theorem stripFrom_block_append (he : e ≠ '*') (he' : e ≠ '/') (rest : List Char) :
    stripFrom (.block afterStar) (body ++ e :: rest) = stripFrom (.block false) rest := by
  induction body generalizing afterStar with
  | nil =>
    rw [List.nil_append, stripFrom, if_neg (fun h => he' h.2), decide_eq_false he]
  | cons c body ih =>
    obtain ⟨hskip, hclose', hstart'⟩ := stripFrom_block_cons hclose hstart (body ++ e :: rest)
    rw [List.cons_append, hskip]
    exact ih hclose' hstart'

end

/-- The end of a block comment. -/
theorem stripFrom_block_close (afterStar : Bool) (rest : List Char) :
    stripFrom (.block afterStar) (' ' :: '*' :: '/' :: rest) = stripFrom .code rest := by
  simp [stripFrom]

/-- The documentation comment with some lines, as a page lays it out. -/
def docChars (lines : List String) : List Char :=
  "/**\n".toList ++ lines.flatMap (fun l => (Page.docLine l).toList ++ ['\n']) ++ " */\n".toList

/-- A line of a documentation comment is skipped. -/
theorem stripFrom_block_docLine {l : String} (h : ¬ ['*', '/'] <:+: l.toList)
    (afterStar : Bool) (rest : List Char) :
    stripFrom (.block afterStar) ((Page.docLine l).toList ++ '\n' :: rest) =
      stripFrom (.block false) rest := by
  unfold Page.docLine
  split
  · simp [stripFrom]
  · rw [String.toList_append, List.append_assoc]
    -- the border of the line is skipped, and leaves no star open
    have hlead : ∀ s, stripFrom (.block afterStar) (" * ".toList ++ s) =
        stripFrom (.block false) s := by
      intro s
      simp [stripFrom]
    rw [hlead]
    exact stripFrom_block_append h (fun hf => Bool.noConfusion hf) (by decide) (by decide) rest

/-- **A documentation comment on a page leaves its line feed**, if no line of it has `*/`. -/
theorem stripFrom_docChars {lines : List String} (h : ∀ l ∈ lines, ¬ ['*', '/'] <:+: l.toList)
    (rest : List Char) :
    stripFrom .code (docChars lines ++ rest) = '\n' :: stripFrom .code rest := by
  -- the induction takes off one line at a time, each of which ends in the same state
  have hbody : ∀ ls : List String, (∀ l ∈ ls, ¬ ['*', '/'] <:+: l.toList) →
      stripFrom (.block false)
        (ls.flatMap (fun l => (Page.docLine l).toList ++ ['\n']) ++ (" */\n".toList ++ rest)) =
      '\n' :: stripFrom .code rest := by
    intro ls hls
    induction ls with
    | nil =>
      rw [List.flatMap_nil, List.nil_append]
      exact (stripFrom_block_close false ('\n' :: rest)).trans
        (stripFrom_code_cons (by decide) rest)
    | cons l ls ih =>
      rw [List.flatMap_cons, List.append_assoc, List.append_assoc, List.singleton_append,
        stripFrom_block_docLine (hls l List.mem_cons_self)]
      exact ih fun l' hl' => hls l' (List.mem_cons_of_mem _ hl')
  have hopen : ∀ s, stripFrom .code ("/**\n".toList ++ s) = stripFrom (.block false) s := by
    intro s
    simp [stripFrom]
  unfold docChars
  rw [List.append_assoc, List.append_assoc, hopen, hbody lines h]

/-- The last line of a documentation comment ends in code, whether it closes the comment or the
comment was closed before it. -/
theorem exists_strip_docEnd {state : CommentState} (h : state = .code ∨ state = .block false) :
    ∃ left, ∀ rest, stripFrom state (" */\n".toList ++ rest) =
      left ++ '\n' :: stripFrom .code rest := by
  rcases h with rfl | rfl
  · -- in code the two characters are code: a star, and a slash before a line feed
    refine ⟨" */".toList, fun rest => ?_⟩
    simp [stripFrom]
  · refine ⟨[], fun rest => ?_⟩
    exact (stripFrom_block_close false ('\n' :: rest)).trans (stripFrom_code_cons (by decide) rest)

/-- **A documentation comment leaves some text and a line feed**, whatever follows it, even if its
own text ends the comment. -/
theorem exists_strip_docChars (lines : List String) :
    ∃ left, ∀ rest, stripFrom .code (docChars lines ++ rest) =
      left ++ '\n' :: stripFrom .code rest := by
  -- the last line of the comment is behind a border, where only two states are left
  obtain ⟨u, hu⟩ : ∃ u, docChars lines = u ++ '\n' :: " */\n".toList := by
    unfold docChars
    -- the border is that of the last line, or that of the opening if there are no lines
    rcases List.eq_nil_or_concat lines with rfl | ⟨init, last, rfl⟩
    · exact ⟨"/**".toList, rfl⟩
    · refine ⟨"/**\n".toList ++ (init.flatMap (fun l => (Page.docLine l).toList ++ ['\n']) ++
        (Page.docLine last).toList), ?_⟩
      rw [List.concat_eq_append, List.flatMap_append, List.flatMap_singleton]
      simp only [List.append_assoc, List.singleton_append]
  obtain ⟨left, state, hstate, hleft⟩ := exists_strip_line .code u
  obtain ⟨left', hleft'⟩ := exists_strip_docEnd hstate
  refine ⟨left ++ left', fun rest => ?_⟩
  rw [hu, List.append_assoc, List.cons_append, hleft, hleft', List.append_assoc]

/-- The lines of a text without `*/` have none either. -/
theorem not_infix_linesOf {doc : String} (h : ¬ ['*', '/'] <:+: doc.toList) :
    ∀ l ∈ Text.linesOf doc, ¬ ['*', '/'] <:+: l.toList :=
  fun _ hl hin => h (hin.trans (Text.infix_of_mem_linesOf hl))

/-- The text of a raw documentation comment is skipped up to the end of the comment. -/
theorem stripFrom_block_starred {d : List Char} {afterStar : Bool}
    (hclose : ¬ ['*', '/'] <:+: d) (hstart : afterStar = true → d.head? ≠ some '/')
    (rest : List Char) :
    stripFrom (.block afterStar)
        (d.flatMap (fun c => if c = '\n' then ['\n', ' ', '*', ' '] else [c]) ++
          ' ' :: '*' :: '/' :: rest) =
      stripFrom .code rest := by
  induction d generalizing afterStar with
  | nil => exact stripFrom_block_close afterStar rest
  | cons c d ih =>
    obtain ⟨hskip, hclose', hstart'⟩ := stripFrom_block_cons hclose hstart
      (d.flatMap (fun c => if c = '\n' then ['\n', ' ', '*', ' '] else [c]) ++
        ' ' :: '*' :: '/' :: rest)
    rw [List.flatMap_cons, List.append_assoc]
    by_cases hc : c = '\n'
    · rw [if_pos hc]
      -- behind the blank of ` * ` no star is open
      have hlead : ∀ s, stripFrom (.block afterStar) (['\n', ' ', '*', ' '] ++ s) =
          stripFrom (.block false) s := by
        intro s
        simp [stripFrom]
      rw [hlead]
      exact ih hclose' fun hf => Bool.noConfusion hf
    · rw [if_neg hc, List.singleton_append, hskip]
      exact ih hclose' hstart'

/-- **A documentation comment in a raw text leaves its line feed**, if its text has no `*/`. -/
theorem stripFrom_docText {doc : String} (h : ¬ ['*', '/'] <:+: doc.toList) (rest : List Char) :
    stripFrom .code ((RawText.docText doc).toList ++ rest) = '\n' :: stripFrom .code rest := by
  have hopen : ∀ s, stripFrom .code ("/** ".toList ++ s) = stripFrom (.block false) s := by
    intro s
    simp [stripFrom]
  unfold RawText.docText RawText.starredText
  rw [String.toList_append, String.toList_append, List.append_assoc, List.append_assoc, hopen,
    String.toList_ofList]
  exact (stripFrom_block_starred h (fun hf => Bool.noConfusion hf) ('\n' :: rest)).trans
    (stripFrom_code_cons (by decide) rest)

end Stencil.Java
