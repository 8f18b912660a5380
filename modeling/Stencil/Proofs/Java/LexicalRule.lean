import Stencil.Proofs.Java.CommentStripping

/-!
# The lexical rule of comments

By the rule of the language a source text is divided from left to right into characters of code and
comments (`IsDivision`): where `/*` or `//` stands a comment begins, and every other character is
code. A text is divided in one way only (`exists_division`, `IsDivision.unique`), and the code of
this division is what should be left of the text without its comments.

`stripComments` takes the star of an opening for that of an end as well, so it is done with a
comment that begins with `/*/` too early, unless the comment ends there anyway (`EndsEarly`). Up to
the first such comment it leaves the code of the division (`stripFrom_code_division`), and there it
goes on with what the comment still holds as if it were code (`stripComments_division`).
-/

namespace Stencil.Java

/-! ### Divided texts -/

/-- A piece of a source text: a character of code, or a comment. -/
inductive Piece where
  | code (c : Char)
  | comment (text : List Char)
deriving Repr, DecidableEq

/-- The characters of a piece. -/
def Piece.chars : Piece → List Char
  | code c => [c]
  | comment text => text

/-- What is left of a piece when comments are left out. -/
def Piece.kept : Piece → List Char
  | code c => [c]
  | comment _ => []

/-- The code of a divided text: its characters outside of comments, in order. -/
def codeOf (pieces : List Piece) : List Char :=
  pieces.flatMap Piece.kept

/-- The text that was divided. -/
def sourceOf (pieces : List Piece) : List Char :=
  pieces.flatMap Piece.chars

/-- A comment begins where the text does. -/
def OpensComment (s : List Char) : Prop :=
  ['/', '*'] <+: s ∨ ['/', '/'] <+: s

instance : DecidablePred OpensComment := fun s =>
  inferInstanceAs (Decidable (['/', '*'] <+: s ∨ ['/', '/'] <+: s))

/-- **A comment, and what follows it.** A line comment ends before the next line feed, and a block
comment with the first `*/` behind its opening, or either with the text. -/
inductive IsComment : List Char → List Char → Prop
  | line {body rest : List Char} (hline : '\n' ∉ body) (hrest : ∀ c ∈ rest.head?, c = '\n') :
      IsComment ('/' :: '/' :: body) rest
  | block {body rest : List Char} (hbody : ¬ ['*', '/'] <:+: body) :
      IsComment ('/' :: '*' :: (body ++ ['*', '/'])) rest
  | unclosed {body : List Char} (hbody : ¬ ['*', '/'] <:+: body) :
      IsComment ('/' :: '*' :: body) []

/-- **The lexical rule**: a text divided from left to right into code and comments. -/
inductive IsDivision : List Char → List Piece → Prop
  | nil : IsDivision [] []
  | code {c : Char} {rest : List Char} {pieces : List Piece} (h : ¬ OpensComment (c :: rest))
      (hrest : IsDivision rest pieces) : IsDivision (c :: rest) (.code c :: pieces)
  | comment {text rest : List Char} {pieces : List Piece} (h : IsComment text rest)
      (hrest : IsDivision rest pieces) : IsDivision (text ++ rest) (.comment text :: pieces)

/-! ### Ends of comments -/

/-- An end of a comment is found in a text, or there is none. -/
theorem exists_end_or_not_infix (s : List Char) :
    (∃ body rest, s = body ++ '*' :: '/' :: rest ∧ ¬ ['*', '/'] <:+: body) ∨
      ¬ ['*', '/'] <:+: s := by
  induction s with
  | nil => exact Or.inr (by decide)
  | cons c s ih =>
    -- the end is here, further on, or nowhere
    by_cases hhere : ['*', '/'] <+: c :: s
    · obtain ⟨rest, hrest⟩ := hhere
      exact Or.inl ⟨[], rest, hrest.symm, by decide⟩
    rcases ih with ⟨body, rest, rfl, hbody⟩ | hnone
    · -- what is before the end does not end in front either
      have hfront : c :: body <+: c :: (body ++ '*' :: '/' :: rest) :=
        List.prefix_append (c :: body) _
      refine Or.inl ⟨c :: body, rest, rfl, fun h => ?_⟩
      rcases List.infix_cons_iff.1 h with h | h
      · exact hhere (h.trans hfront)
      · exact hbody h
    · refine Or.inr fun h => ?_
      rcases List.infix_cons_iff.1 h with h | h
      · exact hhere h
      · exact hnone h

theorem infix_append_end (body rest : List Char) :
    ['*', '/'] <:+: body ++ '*' :: '/' :: rest :=
  ⟨body, rest, by rw [List.append_assoc]; rfl⟩

/-- **There is one first end.** -/
theorem end_unique {a b rest rest' : List Char} (ha : ¬ ['*', '/'] <:+: a)
    (hb : ¬ ['*', '/'] <:+: b) (h : a ++ '*' :: '/' :: rest = b ++ '*' :: '/' :: rest') :
    a = b ∧ rest = rest' := by
  -- where one of the two texts ends first, the other one goes through its end
  have hshort : ∀ {c : Char} {d u v : List Char}, ¬ ['*', '/'] <:+: c :: d →
      '*' :: '/' :: u ≠ c :: d ++ '*' :: '/' :: v := by
    intro c d u v hd heq
    rw [List.cons_append, List.cons.injEq] at heq
    obtain ⟨rfl, heq⟩ := heq
    cases d with
    | nil => exact absurd (List.cons.inj heq).1 (by decide)
    | cons x d =>
      rw [List.cons_append, List.cons.injEq] at heq
      obtain ⟨rfl, -⟩ := heq
      exact hd (List.prefix_append ['*', '/'] d).isInfix
  induction a generalizing b with
  | nil =>
    cases b with
    | nil => exact ⟨rfl, (List.cons.inj (List.cons.inj h).2).2⟩
    | cons c b => exact absurd h (hshort hb)
  | cons c a ih =>
    cases b with
    | nil => exact absurd h.symm (hshort ha)
    | cons d b =>
      rw [List.cons_append, List.cons_append, List.cons.injEq] at h
      obtain ⟨rfl, h⟩ := h
      have ha' : ¬ ['*', '/'] <:+: a := fun hin => ha (hin.trans (List.suffix_cons c a).isInfix)
      have hb' : ¬ ['*', '/'] <:+: b := fun hin => hb (hin.trans (List.suffix_cons c b).isInfix)
      obtain ⟨rfl, hrest⟩ := ih ha' hb' h
      exact ⟨rfl, hrest⟩

/-- A line comment goes up to the first line feed. -/
theorem line_unique {a b rest rest' : List Char} (ha : '\n' ∉ a) (hb : '\n' ∉ b)
    (hrest : ∀ c ∈ rest.head?, c = '\n') (hrest' : ∀ c ∈ rest'.head?, c = '\n')
    (h : a ++ rest = b ++ rest') : a = b ∧ rest = rest' := by
  -- what stands before the line feed is read off the text, so it is the same in both splits
  have htake : ∀ {u v : List Char}, '\n' ∉ u → (∀ c ∈ v.head?, c = '\n') →
      (u ++ v).takeWhile (· ≠ '\n') = u := by
    intro u v hu hv
    have hline : ∀ c ∈ u, decide (c ≠ '\n') = true := by
      rintro c hc
      exact decide_eq_true fun heq => hu (heq ▸ hc)
    rw [List.takeWhile_append_of_pos hline]
    cases v with
    | nil => exact List.append_nil u
    | cons c v =>
      rw [List.takeWhile_cons_of_neg (by simpa using hv c rfl), List.append_nil]
  obtain rfl : a = b := by rw [← htake ha hrest, h, htake hb hrest']
  exact ⟨rfl, List.append_cancel_left h⟩

/-! ### Every text is divided in one way -/

theorem IsComment.opens {text rest : List Char} (h : IsComment text rest) :
    OpensComment (text ++ rest) := by
  cases h with
  | line _ _ => exact Or.inr (List.prefix_append ['/', '/'] _)
  | block _ => exact Or.inl (List.prefix_append ['/', '*'] _)
  | unclosed _ => exact Or.inl (List.prefix_append ['/', '*'] _)

theorem exists_comment {s : List Char} (h : OpensComment s) :
    ∃ text rest, s = text ++ rest ∧ IsComment text rest := by
  rcases h with ⟨s, rfl⟩ | ⟨s, rfl⟩
  · -- the opening says what kind of comment it is, and the text says where it ends
    rcases exists_end_or_not_infix s with ⟨body, rest, rfl, hbody⟩ | hnone
    · refine ⟨_, rest, ?_, .block hbody⟩
      simp only [List.cons_append, List.append_assoc, List.nil_append]
    · exact ⟨_, [], (List.append_nil _).symm, .unclosed hnone⟩
  · refine ⟨'/' :: '/' :: s.takeWhile (· ≠ '\n'), s.dropWhile (· ≠ '\n'), ?_, .line ?_ ?_⟩
    · simp only [List.cons_append, List.nil_append, List.takeWhile_append_dropWhile]
    · intro hmem
      have hne := List.all_eq_true.1 List.all_takeWhile _ hmem
      simp at hne
    · intro c hc
      have hnot := List.head?_dropWhile_not (· ≠ '\n') s
      rw [Option.mem_def.1 hc] at hnot
      simpa using hnot

/-- **The comment with which a text begins is told from the text.** -/
theorem IsComment.unique {a b rest rest' : List Char} (ha : IsComment a rest)
    (hb : IsComment b rest') (h : a ++ rest = b ++ rest') : a = b ∧ rest = rest' := by
  -- the second character tells a comment of one line from the others
  have hslash : ∀ {u v : List Char}, '/' :: '/' :: u ≠ '/' :: '*' :: v := fun heq =>
    absurd (List.cons.inj (List.cons.inj heq).2).1 (by decide)
  cases ha with
  | @line body _ hline hrest =>
    cases hb with
    | @line body' _ hline' hrest' =>
      have htail : body ++ rest = body' ++ rest' := (List.cons.inj (List.cons.inj h).2).2
      obtain ⟨rfl, hsame⟩ := line_unique hline hline' hrest hrest' htail
      exact ⟨rfl, hsame⟩
    | block _ => exact absurd h hslash
    | unclosed _ => exact absurd h hslash
  | @block body _ hbody =>
    cases hb with
    | line _ _ => exact absurd h.symm hslash
    | @block body' _ hbody' =>
      have htail : body ++ ['*', '/'] ++ rest = body' ++ ['*', '/'] ++ rest' :=
        (List.cons.inj (List.cons.inj h).2).2
      rw [List.append_assoc, List.append_assoc] at htail
      obtain ⟨rfl, hsame⟩ := end_unique hbody hbody' htail
      exact ⟨rfl, hsame⟩
    -- an unclosed comment runs through the rest, in which the other one would be closed
    | @unclosed body' hbody' =>
      have htail : body ++ ['*', '/'] ++ rest = body' ++ [] :=
        (List.cons.inj (List.cons.inj h).2).2
      rw [List.append_assoc, List.append_nil] at htail
      exact absurd (htail ▸ infix_append_end body rest) hbody'
  | @unclosed body hbody =>
    cases hb with
    | line _ _ => exact absurd h.symm hslash
    | @block body' _ hbody' =>
      have htail : body ++ [] = body' ++ ['*', '/'] ++ rest' :=
        (List.cons.inj (List.cons.inj h).2).2
      rw [List.append_assoc, List.append_nil] at htail
      exact absurd (htail ▸ infix_append_end body' rest') hbody
    | unclosed _ => exact ⟨List.append_cancel_right h, rfl⟩

theorem IsComment.length_pos {text rest : List Char} (h : IsComment text rest) :
    0 < text.length := by
  cases h <;> exact Nat.succ_pos _

theorem exists_division (source : List Char) : ∃ pieces, IsDivision source pieces := by
  match source with
  | [] => exact ⟨[], .nil⟩
  | c :: s =>
    by_cases hopen : OpensComment (c :: s)
    · obtain ⟨text, rest, hsplit, hcomment⟩ := exists_comment hopen
      -- every comment has its opening at least, so the rest is shorter
      have hless : rest.length < s.length + 1 := by
        have hpos := hcomment.length_pos
        rw [← List.length_cons (a := c), hsplit, List.length_append]
        omega
      obtain ⟨pieces, hpieces⟩ := exists_division rest
      exact ⟨.comment text :: pieces, hsplit ▸ .comment hcomment hpieces⟩
    · obtain ⟨pieces, hpieces⟩ := exists_division s
      exact ⟨.code c :: pieces, .code hopen hpieces⟩
termination_by source.length
decreasing_by
  · exact hless
  · exact Nat.lt_succ_self _

/-- A text without a slash is code. -/
theorem IsDivision.append_of_not_mem {u rest : List Char} {pieces : List Piece} (hu : '/' ∉ u)
    (h : IsDivision rest pieces) : IsDivision (u ++ rest) (u.map .code ++ pieces) := by
  induction u with
  | nil => exact h
  | cons c u ih =>
    rw [List.mem_cons, not_or] at hu
    refine .code ?_ (ih hu.2)
    rintro (⟨_, hopen⟩ | ⟨_, hopen⟩) <;> exact hu.1 (List.cons.inj hopen).1

theorem IsDivision.sourceOf_eq {source : List Char} {pieces : List Piece}
    (h : IsDivision source pieces) : sourceOf pieces = source := by
  induction h with
  | nil => rfl
  | code _ _ ih => exact congrArg _ ih
  | comment _ _ ih =>
    unfold sourceOf at ih ⊢
    rw [List.flatMap_cons, ih]
    rfl

/-- **There is no other way to divide a text.** -/
theorem IsDivision.unique {source : List Char} {pieces other : List Piece}
    (h : IsDivision source pieces) (h' : IsDivision source other) : other = pieces := by
  induction h generalizing other with
  | nil =>
    generalize hs : ([] : List Char) = s at h'
    cases h' with
    | nil => rfl
    | code _ _ => contradiction
    | comment hcomment _ =>
      have hpos := hcomment.length_pos
      rw [List.eq_nil_of_append_eq_nil hs.symm |>.1] at hpos
      contradiction
  -- a comment begins exactly where one opens, so the pieces are of the same kind
  | @code c rest pieces hopen _ ih =>
    generalize hs : c :: rest = s at h'
    cases h' with
    | nil => contradiction
    | code _ hrest' =>
      obtain ⟨rfl, rfl⟩ := List.cons.inj hs
      rw [ih hrest']
    | comment hcomment _ => exact absurd (hs ▸ hcomment.opens) hopen
  | @comment text rest pieces hcomment _ ih =>
    generalize hs : text ++ rest = s at h'
    cases h' with
    | nil =>
      have hpos := hcomment.length_pos
      rw [List.eq_nil_of_append_eq_nil hs |>.1] at hpos
      contradiction
    | code hopen _ => exact absurd (hs ▸ hcomment.opens) hopen
    | comment hcomment' hrest' =>
      obtain ⟨rfl, rfl⟩ := hcomment.unique hcomment' hs
      rw [ih hrest']

/-! ### Stripping -/

/-- A comment of which `stripComments` skips the first three characters only: it takes them for a
whole comment. -/
def EndsEarly (text : List Char) : Prop :=
  ['/', '*', '/'] <+: text ∧ text ≠ ['/', '*', '/']

instance : DecidablePred EndsEarly := fun text =>
  inferInstanceAs (Decidable (['/', '*', '/'] <+: text ∧ text ≠ ['/', '*', '/']))

theorem stripFrom_code_of_not_opens {c : Char} {rest : List Char}
    (h : ¬ OpensComment (c :: rest)) :
    stripFrom .code (c :: rest) = c :: stripFrom .code rest := by
  unfold OpensComment at h
  rw [not_or] at h
  -- a slash is copied unless a comment opens there, and any other character always
  by_cases hc : c = '/'
  · subst hc
    cases rest with
    | nil => rfl
    | cons d rest =>
      refine stripFrom_code_slash ?_ ?_ rest
      · rintro rfl
        exact h.2 (List.prefix_append ['/', '/'] rest)
      · rintro rfl
        exact h.1 (List.prefix_append ['/', '*'] rest)
  · exact stripFrom_code_cons hc rest

section

variable {body : List Char} {afterStar : Bool} (hbody : ¬ ['*', '/'] <:+: body)
  (hstart : afterStar = true → body.head? ≠ some '/')

include hbody hstart

/-- A block comment is skipped up to its first end, if it does not end in front with a star before
it. -/
theorem stripFrom_block_end (rest : List Char) :
    stripFrom (.block afterStar) (body ++ '*' :: '/' :: rest) = stripFrom .code rest := by
  induction body generalizing afterStar with
  | nil => simp [stripFrom]
  | cons c body ih =>
    obtain ⟨hskip, hbody', hstart'⟩ :=
      stripFrom_block_cons hbody hstart (body ++ '*' :: '/' :: rest)
    rw [List.cons_append, hskip]
    exact ih hbody' hstart'

/-- One that does not end is skipped with all that follows. -/
theorem stripFrom_block_unclosed : stripFrom (.block afterStar) body = [] := by
  induction body generalizing afterStar with
  | nil => rfl
  | cons c body ih =>
    obtain ⟨hskip, hbody', hstart'⟩ := stripFrom_block_cons hbody hstart body
    rw [hskip]
    exact ih hbody' hstart'

end

theorem stripFrom_line_eq_nil {body : List Char} (h : '\n' ∉ body) : stripFrom .line body = [] := by
  induction body with
  | nil => rfl
  | cons c body ih =>
    rw [List.mem_cons, not_or] at h
    rw [stripFrom, if_neg fun hc => h.1 hc.symm, ih h.2]

/-- **A comment is skipped**, unless it ends early. -/
theorem IsComment.stripFrom_eq {text rest : List Char} (h : IsComment text rest)
    (hearly : ¬ EndsEarly text) : stripFrom .code (text ++ rest) = stripFrom .code rest := by
  -- behind the star of the opening there is no slash, or the comment would end early
  have hhead : ∀ {body : List Char}, ¬ EndsEarly ('/' :: '*' :: body) → body ≠ ['/'] →
      body.head? ≠ some '/' := by
    intro body hbody hne hslash
    obtain ⟨rest, rfl⟩ := List.head?_eq_some_iff.1 hslash
    exact hbody ⟨List.prefix_append ['/', '*', '/'] rest, by simpa using hne⟩
  cases h with
  | @line body rest hline hrest =>
    change stripFrom .line (body ++ rest) = _
    cases rest with
    | nil => rw [List.append_nil, stripFrom_line_eq_nil hline, stripFrom_nil]
    | cons c rest =>
      obtain rfl : c = '\n' := hrest c rfl
      rw [stripFrom_line_append hline, stripFrom_code_cons (by decide)]
  | @block body rest hbody =>
    have hslash : body.head? ≠ some '/' := by
      intro hslash
      refine hhead hearly ?_ ?_
      · intro heq
        have hlength := congrArg List.length heq
        simp at hlength
      · rw [List.head?_append, hslash]
        rfl
    change stripFrom (.block true) (body ++ ['*', '/'] ++ rest) = _
    rw [List.append_assoc]
    exact stripFrom_block_end hbody (fun _ => hslash) rest
  | @unclosed body hbody =>
    rw [List.append_nil, stripFrom_nil]
    change stripFrom (.block true) body = []
    -- a slash with nothing behind it would end the comment, of which nothing is left either way
    by_cases hslash : body = ['/']
    · rw [hslash]
      rfl
    · exact stripFrom_block_unclosed hbody fun _ => hhead hearly hslash

/-- What is stripped of a text up to some place of its division is all comments that it has there,
if none of them ends early. -/
theorem stripFrom_code_division {source : List Char} {before after : List Piece}
    (h : IsDivision source (before ++ after))
    (hearly : ∀ text, .comment text ∈ before → ¬ EndsEarly text) :
    stripFrom .code source = codeOf before ++ stripFrom .code (sourceOf after) := by
  induction before generalizing source with
  | nil =>
    rw [← h.sourceOf_eq]
    rfl
  -- a piece of code is copied, and a comment that does not end early leaves nothing
  | cons piece before ih =>
    have hearly' : ∀ text, .comment text ∈ before → ¬ EndsEarly text := fun text hmem =>
      hearly text (List.mem_cons_of_mem _ hmem)
    rw [List.cons_append] at h
    cases h with
    | code hopen hrest =>
      rw [stripFrom_code_of_not_opens hopen, ih hrest hearly']
      rfl
    | comment hcomment hrest =>
      rw [hcomment.stripFrom_eq (hearly _ List.mem_cons_self), ih hrest hearly']
      rfl

/-! ### What is left -/

/-- **What stripping leaves, told by the lexical rule.** A text is divided in just one way. If none
of its comments ends early, what is left is the code of the division; else it is the code up to the
first that does, and then what is left of that comment behind its first three characters and of all
that follows. -/
theorem stripComments_division (source : List Char) :
    ∃ pieces, IsDivision source pieces ∧ (∀ other, IsDivision source other → other = pieces) ∧
      ((∀ text, .comment text ∈ pieces → ¬ EndsEarly text) →
        stripComments source = codeOf pieces) ∧
      ∀ before text after, pieces = before ++ .comment text :: after → EndsEarly text →
        (∀ other, .comment other ∈ before → ¬ EndsEarly other) →
        stripComments source = codeOf before ++ stripComments (text.drop 3 ++ sourceOf after) := by
  obtain ⟨pieces, hpieces⟩ := exists_division source
  refine ⟨pieces, hpieces, fun other hother => hpieces.unique hother, fun hearly => ?_, ?_⟩
  · have hall : IsDivision source (pieces ++ []) := (List.append_nil pieces).symm ▸ hpieces
    have hleft := stripFrom_code_division hall hearly
    rwa [sourceOf, List.flatMap_nil, stripFrom_nil, List.append_nil] at hleft
  · rintro before text after rfl ⟨⟨more, rfl⟩, -⟩ hearly
    -- the slash behind the star of the opening ends the comment
    have hskip : ∀ rest, stripFrom .code ('/' :: '*' :: '/' :: rest) = stripFrom .code rest := by
      intro rest
      simp [stripFrom]
    have hleft := stripFrom_code_division hpieces hearly
    rw [sourceOf, List.flatMap_cons] at hleft
    exact hleft.trans (congrArg _ (hskip _))

/-- A text with comments of all kinds, and with openings inside of them. -/
def commentedPieces : List Piece :=
  [.code 'a', .comment ['/', '*', '*', '/'], .code 'b', .comment ['/', '/', '*'], .code '\n',
    .code '*', .comment ['/', '/'], .code '\n', .comment ['/', '*', '/']]

theorem isDivision_commentedPieces : IsDivision (sourceOf commentedPieces) commentedPieces := by
  have hline : ∀ {rest : List Char}, ∀ c ∈ ('\n' :: rest).head?, c = '\n' :=
    fun c hc => (Option.some.inj hc).symm
  refine .code (by decide) (.comment (@IsComment.block [] _ (by decide)) (.code (by decide) ?_))
  refine .comment (.line (by decide) hline) (.code (by decide) (.code (by decide) ?_))
  refine .comment (.line (by decide) hline) (.code (by decide) ?_)
  exact .comment (.unclosed (by decide)) .nil

theorem stripComments_division_commented :
    (∀ text, .comment text ∈ commentedPieces → ¬ EndsEarly text) ∧
      stripComments "a/**/b//*\n*//\n/*/".toList = "ab\n*\n".toList := by
  have hsource : "a/**/b//*\n*//\n/*/".toList = sourceOf commentedPieces := by decide
  obtain ⟨pieces, -, hunique, hleft, -⟩ := stripComments_division (sourceOf commentedPieces)
  obtain rfl := hunique _ isDivision_commentedPieces
  have hearly : ∀ text, .comment text ∈ commentedPieces → ¬ EndsEarly text := by
    simp only [commentedPieces, List.mem_cons, List.not_mem_nil, reduceCtorEq, false_or, or_false,
      Piece.comment.injEq]
    rintro text (rfl | rfl | rfl | rfl) <;> decide
  refine ⟨hearly, ?_⟩
  rw [hsource, hleft hearly]
  decide

/-- **So not every comment is left out**: what is in one that ends early may be left. -/
theorem not_stripComments_eq_codeOf :
    ¬ ∀ (source : List Char) (pieces : List Piece), '\x22' ∉ source → '\x27' ∉ source →
      IsDivision source pieces → stripComments source = codeOf pieces := by
  intro h
  -- by the rule this class has the field `b` only, and `a` is in the comment
  have hbehind := IsDivision.append_of_not_mem (u := " int b; \x7d".toList) (by decide) .nil
  have hcomment : IsComment ('/' :: '*' :: ("/ int a; ".toList ++ ['*', '/']))
      (" int b; \x7d".toList ++ []) := .block (by decide +kernel)
  have hdivision := IsDivision.append_of_not_mem (u := "class A \x7b".toList) (by decide)
    (.comment hcomment hbehind)
  exact absurd (h _ _ (by decide +kernel) (by decide +kernel) hdivision) (by decide +kernel)

end Stencil.Java
