import Stencil.Proofs.Config.PlainLines

/-!
# Plain sections of TOML

A plain section is a header with plain lines below it (`PlainSection`). Sections that are laid out
with an empty line between them are read statement by statement, and so **they are read as what they
say** (`Document.read?_allWritten`), all of them, and nothing else.
-/

namespace Stencil.Config.Toml

open Reader

/-! ### Headers -/

/-- The header of a section: a key, which may stand below another one, in brackets, which are
double for one more element. -/
structure Heading where
  parent : Option BareKey
  key : BareKey
  isElement : Bool

namespace Heading

/-- The keys before the last. -/
def path (heading : Heading) : List String :=
  (heading.parent.map (·.text)).toList

/-- How the keys are written. -/
def keysWritten (heading : Heading) : List Char :=
  (heading.parent.elim [] fun key => key.text.toList ++ ['.']) ++ heading.key.text.toList

/-- How a header is written. -/
def written (heading : Heading) : List Char :=
  if heading.isElement then '[' :: '[' :: (heading.keysWritten ++ [']', ']'])
  else '[' :: (heading.keysWritten ++ [']'])

theorem exists_keysWritten (heading : Heading) :
    ∃ c u, heading.keysWritten = c :: u ∧ isBareKeyChar c = true := by
  obtain ⟨parent, key, isElement⟩ := heading
  cases parent with
  | none => exact key.exists_cons
  | some parent =>
    obtain ⟨c, u, hcons, hbare⟩ := parent.exists_cons
    refine ⟨c, u ++ '.' :: key.text.toList, ?_, hbare⟩
    unfold keysWritten
    rw [Option.elim_some, hcons, List.append_assoc]
    rfl

theorem reads_readPath (heading : Heading) (s : List Char) :
    Reads readPath (heading.keysWritten ++ ']' :: s) (heading.path, heading.key.text)
      (']' :: s) := by
  -- a closing bracket ends the path
  have hlast : Reads dottedKey (']' :: s) none (']' :: s) :=
    reads_dottedKey_of_ne (List.forall_mem_nil _) rfl (by decide) s
  have hclose : isBareKeyChar ']' = false := by decide
  obtain ⟨parent, key, isElement⟩ := heading
  unfold keysWritten
  cases parent with
  | none => exact key.reads_readPath hclose hlast
  | some parent =>
    -- a dot is followed by one more key, and that is followed by the bracket
    have hkey := key.reads_readKey hclose s
    have hdot : Reads dottedKey ('.' :: (key.text.toList ++ ']' :: s)) (some key.text)
        (']' :: s) := by
      obtain ⟨c, u, hcons, hbare⟩ := key.exists_cons
      refine (reads_skipBlanks_nil rfl _).bind ((reads_takeIf _ _).bind ?_)
      rw [hcons, List.cons_append] at hkey ⊢
      refine (reads_skipBlanks_nil ?_ _).bind (hkey.bind (Reads.pure _ _))
      exact isBlank_of_isBareKeyChar hbare
    -- the reader goes on only while it takes something
    have hlt : (']' :: s).length < ('.' :: (key.text.toList ++ ']' :: s)).length := by
      show s.length + 1 < (key.text.toList ++ ']' :: s).length + 1
      rw [List.length_append, List.length_cons]
      omega
    have hcount : [key.text].length < maxKeys := show 1 < 80 by decide
    rw [Option.elim_some, List.append_assoc, List.append_assoc]
    refine (parent.reads_readKey (by decide) _).bind ?_
    refine (Steps.more hdot hlt (Steps.done hlast)).reads_many.bind ?_
    exact (reads_guard hcount _).bind (Reads.pure _ _)

/-- The section that a header opens. -/
def opened (heading : Heading) : Section :=
  ⟨heading.path, heading.key.text, heading.isElement, []⟩

theorem reads_readHeader (heading : Heading) (s : List Char) :
    Reads readHeader (heading.written ++ s) heading.opened s := by
  have hpath := heading.reads_readPath
  obtain ⟨c, u, hcons, hbare⟩ := heading.exists_keysWritten
  -- the second bracket tells the two headers apart
  have hopen : c ≠ '[' := by
    rintro rfl
    contradiction
  have hskip : ∀ s, Reads skipBlanks (c :: s) () (c :: s) :=
    reads_skipBlanks_nil (isBlank_of_isBareKeyChar hbare)
  unfold written opened
  split
  · -- two brackets on each side
    next helement =>
    have hkeys := hpath (']' :: s)
    show Reads readHeader ('[' :: '[' :: (heading.keysWritten ++ [']', ']'] ++ s)) _ s
    rw [List.append_assoc]
    rw [hcons] at hkeys ⊢
    refine (reads_take _ _).bind ((reads_takeIf _ _).bind ((hskip _).bind (hkeys.bind ?_)))
    refine (reads_skipBlanks_nil rfl _).bind ((reads_take _ _).bind ((reads_take _ _).bind ?_))
    rw [helement]
    exact Reads.pure _ _
  · -- one bracket on each side, and the key is none
    next helement =>
    have hkeys := hpath s
    show Reads readHeader ('[' :: (heading.keysWritten ++ [']'] ++ s)) _ s
    rw [List.append_assoc]
    rw [hcons] at hkeys ⊢
    refine (reads_take _ _).bind ((reads_takeIf_of_ne hopen _).bind ((hskip _).bind ?_))
    refine hkeys.bind ((reads_skipBlanks_nil rfl _).bind ((reads_take _ _).bind ?_))
    rw [Bool.eq_false_iff.2 helement]
    exact Reads.pure _ _

theorem exists_written (heading : Heading) : ∃ u, heading.written = '[' :: u := by
  unfold written
  split <;> exact ⟨_, rfl⟩

/-- **A header is read as the section that it opens**, behind any number of empty lines. -/
theorem reads_readStatement (lines : Nat) (heading : Heading) (s : List Char) :
    Reads readStatement (List.replicate lines '\n' ++ (heading.written ++ '\n' :: s))
      (some (.header heading.opened)) s := by
  have hread := (heading.reads_readHeader ('\n' :: s)).map Statement.header
  obtain ⟨u, hwritten⟩ := heading.exists_written
  rw [hwritten, List.cons_append] at hread ⊢
  refine (reads_skipTrivia lines (List.forall_mem_nil _) (by decide) _).bind ?_
  refine (reads_atEnd _ _).bind ((reads_peek? _ _).bind ?_)
  exact hread.bind (reads_endOfLine _ _)

end Heading

/-! ### Sections -/

/-- A header with the lines below it. -/
structure PlainSection where
  heading : Heading
  lines : List PlainLine

namespace PlainSection

/-- A section as it is laid out, each line with its end. -/
def written (part : PlainSection) : List Char :=
  part.heading.written ++ '\n' :: part.lines.flatMap (·.written ++ ['\n'])

/-- What a section says. -/
def meaning (part : PlainSection) : Section :=
  { part.heading.opened with lines := part.lines.map PlainLine.assignment }

/-- The statements of a section. -/
def statements (part : PlainSection) : List Statement :=
  .header part.heading.opened :: part.lines.map (.assignment ·.assignment)

variable {s s' : List Char} {more : List Statement}

theorem steps_lines (lines : List PlainLine) (h : Steps readStatement s more s') :
    Steps readStatement (lines.flatMap (·.written ++ ['\n']) ++ s)
      (lines.map (.assignment ·.assignment) ++ more) s' := by
  induction lines with
  | nil => exact h
  | cons line lines ih =>
    -- what the first line leaves is what the others are read from
    generalize hu : lines.flatMap (·.written ++ ['\n']) ++ s = u at ih
    rw [List.flatMap_cons, List.append_assoc, List.append_assoc, hu]
    refine .more (line.reads_readStatement _) ?_ ih
    show u.length < (line.written ++ '\n' :: u).length
    rw [List.length_append, List.length_cons]
    omega

/-- **A section is read statement by statement.** -/
theorem steps_readStatement (lines : Nat) (part : PlainSection)
    (h : Steps readStatement s more s') :
    Steps readStatement (List.replicate lines '\n' ++ (part.written ++ s))
      (part.statements ++ more) s' := by
  unfold written statements
  rw [List.append_assoc]
  refine .more (part.heading.reads_readStatement lines _) ?_ (steps_lines part.lines h)
  simp only [List.append_eq, List.length_append, List.length_cons]
  omega

/-- Sections as they are laid out, with an empty line between them. -/
def allWritten (parts : List PlainSection) : List Char :=
  ['\n'].intercalate (parts.map written)

theorem allWritten_cons (part : PlainSection) (parts : List PlainSection) :
    allWritten (part :: parts) = part.written ++ parts.flatMap ('\n' :: written ·) := by
  unfold allWritten
  induction parts generalizing part with
  | nil => rw [List.map_singleton, List.intercalate_singleton, List.flatMap_nil, List.append_nil]
  | cons next parts ih =>
    rw [List.map_cons, List.map_cons, List.intercalate_cons_cons, ← List.map_cons, ih,
      List.flatMap_cons, List.append_assoc]
    rfl

theorem steps_allWritten (parts : List PlainSection) :
    Steps readStatement (allWritten parts) (parts.flatMap statements) [] := by
  -- every section but the first has an empty line before it
  have hbehind : ∀ parts : List PlainSection,
      Steps readStatement (parts.flatMap ('\n' :: written ·)) (parts.flatMap statements) [] := by
    intro parts
    induction parts with
    | nil => exact .done rfl
    | cons part parts ih => exact steps_readStatement 1 part ih
  cases parts with
  | nil => exact .done rfl
  | cons part parts =>
    rw [allWritten_cons]
    exact steps_readStatement 0 part (hbehind parts)

end PlainSection

/-! ### Documents -/

theorem ofStatements_assignments (as : List Assignment) (rest : List Statement) :
    Document.ofStatements (as.map .assignment ++ rest) =
      { Document.ofStatements rest with lines := as ++ (Document.ofStatements rest).lines } := by
  induction as with
  | nil => rfl
  | cons a as ih =>
    rw [List.map_cons, List.cons_append, Document.ofStatements, ih]
    rfl

theorem ofStatements_sections (parts : List PlainSection) :
    Document.ofStatements (parts.flatMap PlainSection.statements) =
      ⟨[], parts.map PlainSection.meaning⟩ := by
  induction parts with
  | nil => rfl
  | cons part parts ih =>
    -- the lines of a section are all assignments, so they end where the next header begins
    have hlines : part.lines.map (fun line => Statement.assignment line.assignment) =
        (part.lines.map PlainLine.assignment).map .assignment := by
      rw [List.map_map]
      rfl
    rw [List.flatMap_cons, PlainSection.statements, List.cons_append, Document.ofStatements,
      hlines, ofStatements_assignments, ih]
    dsimp only
    rw [List.append_nil]
    rfl

/-- No byte order mark stands before the first header. -/
theorem allWritten_ne_mark (parts : List PlainSection) (rest : List Char) :
    PlainSection.allWritten parts ≠ '\uFEFF' :: rest := by
  intro h
  -- the first character is the bracket of a header, or there is none
  have hhead : (PlainSection.allWritten parts).head? = some '\uFEFF' := by
    rw [h]
    rfl
  cases parts with
  | nil => contradiction
  | cons part parts =>
    obtain ⟨u, hwritten⟩ := part.heading.exists_written
    rw [PlainSection.allWritten_cons, PlainSection.written, hwritten] at hhead
    have hopen : '[' = '\uFEFF' := Option.some.inj hhead
    contradiction

/-- **Plain sections are read as what they say.** -/
theorem Document.read?_allWritten {text : String} {parts : List PlainSection}
    (h : text.toList = PlainSection.allWritten parts) :
    Document.read? text = some ⟨[], parts.map PlainSection.meaning⟩ := by
  have hmany := whole_eq_some (PlainSection.steps_allWritten parts).reads_many
  unfold read?
  rw [h]
  dsimp only
  -- a byte order mark would be left out before the text is read
  split
  · next heq => exact absurd heq (allWritten_ne_mark parts _)
  · rw [hmany, Option.map_some, ofStatements_sections]

end Stencil.Config.Toml
