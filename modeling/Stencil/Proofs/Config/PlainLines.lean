import Stencil.Config.Toml.Document
import Stencil.Proofs.Config.Readers

/-!
# Plain lines of TOML

A plain line has a key without quotes, an equals sign between two blanks, and a text in double
quotes or a list of such texts. Nothing in it is escaped: a `PlainText` has only characters that
stand for themselves, and a `BareKey` only those that need no quotes, so neither can end early.

**A plain line is read as what it says** (`PlainLine.reads_readStatement`), whatever follows it.
What may stand before a token is skipped by `reads_skipTrivia`.
-/

namespace Stencil.Config.Toml

open Reader

/-! ### Plain texts and keys -/

/-- Whether a character stands for itself in double quotes. -/
def isUnescaped (c : Char) : Bool :=
  isPlain c && c != '\x22' && c != '\\'

/-- A text that stands in double quotes as it is. -/
structure PlainText where
  text : String
  plain : text.toList.all isUnescaped = true := by decide

/-- A key that stands without quotes. -/
structure BareKey where
  text : String
  nonempty : text.toList ≠ [] := by decide
  bare : text.toList.all isBareKeyChar = true := by decide

theorem PlainText.isUnescaped_of_mem (v : PlainText) :
    ∀ c ∈ v.text.toList, isUnescaped c = true :=
  List.all_eq_true.1 v.plain

theorem BareKey.isBareKeyChar_of_mem (key : BareKey) :
    ∀ c ∈ key.text.toList, isBareKeyChar c = true :=
  List.all_eq_true.1 key.bare

theorem BareKey.exists_cons (key : BareKey) :
    ∃ c u, key.text.toList = c :: u ∧ isBareKeyChar c = true := by
  obtain ⟨c, u, hcons⟩ := List.exists_cons_of_ne_nil key.nonempty
  exact ⟨c, u, hcons, key.isBareKeyChar_of_mem c (by rw [hcons]; exact List.mem_cons_self)⟩

theorem reads_readBasicChar {c : Char} (h : isUnescaped c = true) (s : List Char) :
    Reads readBasicChar (c :: s) (some c) s := by
  unfold isUnescaped at h
  rw [Bool.and_eq_true, Bool.and_eq_true] at h
  obtain ⟨⟨hplain, hquote⟩, hslash⟩ := h
  refine (reads_next c s).bind ?_
  rw [if_neg (by simpa using hquote), if_neg (by simpa using hslash), if_pos hplain]
  exact Reads.pure _ _

theorem steps_readBasicChar {v : List Char} (h : ∀ c ∈ v, isUnescaped c = true) (s : List Char) :
    Steps readBasicChar (v ++ '\x22' :: s) v s := by
  induction v with
  | nil => exact .done rfl
  | cons c v ih =>
    obtain ⟨hc, hv⟩ := List.forall_mem_cons.1 h
    exact .more (reads_readBasicChar hc _) (Nat.lt_succ_self _) (ih hv)

/-- **A plain text is read off its quotes**, unless a third one makes them open a longer text. -/
theorem PlainText.reads_readString (v : PlainText) {s : List Char} (hs : s.head? ≠ some '\x22') :
    Reads readString ('\x22' :: (v.text.toList ++ '\x22' :: s)) v.text s := by
  have hbasic : Reads readBasic ('\x22' :: (v.text.toList ++ '\x22' :: s)) v.text.toList s :=
    (reads_take _ _).bind (steps_readBasicChar v.isUnescaped_of_mem s).reads_many
  -- a string in three quotes begins otherwise, so the reader takes the short form
  have hlong : List.isPrefixOf ['\x22', '\x22', '\x22']
      ('\x22' :: (v.text.toList ++ '\x22' :: s)) = false := by
    cases hv : v.text.toList with
    | nil =>
      -- the quotes stand side by side, so it depends on what follows
      cases s with
      | nil => rfl
      | cons c s =>
        have hc : c ≠ '\x22' := fun h => hs (congrArg some h)
        simp [List.isPrefixOf, hc.symm]
    | cons c u =>
      have hc : isUnescaped c = true :=
        v.isUnescaped_of_mem c (by rw [hv]; exact List.mem_cons_self)
      have hquote : c ≠ '\x22' := by
        rintro rfl
        contradiction
      simp [List.isPrefixOf, hquote.symm]
  have hread : readString ('\x22' :: (v.text.toList ++ '\x22' :: s)) =
      (String.ofList <$> readBasic : Reader String) ('\x22' :: (v.text.toList ++ '\x22' :: s)) := by
    unfold readString
    rw [if_neg (by rw [hlong]; exact Bool.false_ne_true)]
    rfl
  have hmap := hbasic.map String.ofList
  rw [String.ofList_toList] at hmap
  exact hread.trans hmap

/-- A bare key is read up to the first character that cannot belong to it. -/
theorem BareKey.reads_readKey (key : BareKey) {c : Char} (hc : isBareKeyChar c = false)
    (s : List Char) : Reads readKey (key.text.toList ++ c :: s) key.text (c :: s) := by
  have hrun := reads_run key.isBareKeyChar_of_mem hc s
  have hguard : (!key.text.toList.isEmpty) = true := by
    rw [Bool.not_eq_true', List.isEmpty_eq_false_iff]
    exact key.nonempty
  -- a key without quotes is a run of characters, and it is not empty
  have hread : Reads (do
      let u ← run isBareKeyChar
      guard (!u.isEmpty)
      return String.ofList u) (key.text.toList ++ c :: s) key.text (c :: s) := by
    refine hrun.bind ((reads_guard hguard _).bind ?_)
    rw [String.ofList_toList]
    exact Reads.pure _ _
  -- its first character says that it is not in quotes
  obtain ⟨d, u, hkey, hd⟩ := key.exists_cons
  rw [hkey] at hread ⊢
  refine (reads_peek? d _).bind ?_
  split
  · next heq =>
    obtain rfl := Option.some.inj heq
    contradiction
  · next heq =>
    obtain rfl := Option.some.inj heq
    contradiction
  · exact hread

/-! ### What stands between -/

/-- Whether a character is neither blank nor the beginning of a comment or of the end of a line. -/
def opensToken (c : Char) : Bool :=
  !isBlank c && c != '#' && c != '\n' && c != '\r'

theorem reads_skipBlanks {lead : List Char} (hlead : ∀ c ∈ lead, isBlank c = true) {c : Char}
    (hc : isBlank c = false) (s : List Char) : Reads skipBlanks (lead ++ c :: s) () (c :: s) :=
  (reads_run hlead hc s).bind (Reads.pure _ _)

theorem reads_skipBlanks_nil {c : Char} (hc : isBlank c = false) (s : List Char) :
    Reads skipBlanks (c :: s) () (c :: s) :=
  reads_skipBlanks (List.forall_mem_nil _) hc s

theorem reads_skipComment_of_ne {c : Char} (hc : c ≠ '#') (s : List Char) :
    Reads skipComment (c :: s) () (c :: s) :=
  (reads_takeIf_of_ne hc s).bind (Reads.pure _ _)

theorem reads_newlineIf (s : List Char) : Reads newlineIf ('\n' :: s) true s :=
  (reads_takeIf _ _).bind (Reads.pure _ _)

/-- **Empty lines and blanks are skipped** up to a token. -/
theorem reads_skipTrivia (lines : Nat) {lead : List Char} (hlead : ∀ c ∈ lead, isBlank c = true)
    {c : Char} (hc : opensToken c = true) (s : List Char) :
    Reads skipTrivia (List.replicate lines '\n' ++ (lead ++ c :: s)) () (c :: s) := by
  unfold opensToken at hc
  rw [Bool.and_eq_true, Bool.and_eq_true, Bool.and_eq_true] at hc
  obtain ⟨⟨⟨hblank, hhash⟩, hnewline⟩, hreturn⟩ := hc
  have hcomment := reads_skipComment_of_ne (by simpa using hhash) s
  -- what follows does not begin with a line end, so nothing more is skipped
  have hend : Reads newlineIf (c :: s) false (c :: s) := by
    refine (reads_takeIf_of_ne (by simpa using hnewline) s).bind ?_
    have hword : List.isPrefixOf ['\r', '\n'] (c :: s) = false := by
      have hne : c ≠ '\r' := by simpa using hreturn
      simp [List.isPrefixOf, hne.symm]
    show (if List.isPrefixOf ['\r', '\n'] (c :: s) = true then _ else _) = _
    rw [if_neg (by rw [hword]; exact Bool.false_ne_true)]
  -- each step but the last takes an empty line
  suffices hsteps : Steps _ (List.replicate lines '\n' ++ (lead ++ c :: s))
      (List.replicate lines ()) (c :: s) from hsteps.reads_many.bind (Reads.pure _ _)
  induction lines with
  | zero =>
    refine .done ?_
    refine (reads_skipBlanks hlead (by simpa using hblank) s).bind (hcomment.bind (hend.bind ?_))
    exact Reads.pure _ _
  | succ lines ih =>
    refine .more ?_ (Nat.lt_succ_self _) ih
    refine (reads_skipBlanks_nil (by decide) _).bind ?_
    refine (reads_skipComment_of_ne (by decide) _).bind ((reads_newlineIf _).bind ?_)
    exact Reads.pure _ _

theorem reads_skipTrivia_nil {c : Char} (hc : opensToken c = true) (s : List Char) :
    Reads skipTrivia (c :: s) () (c :: s) :=
  reads_skipTrivia 0 (List.forall_mem_nil _) hc s

/-! ### Values -/

/-- A plain text in its quotes. -/
def PlainText.quoted (v : PlainText) : List Char :=
  '\x22' :: (v.text.toList ++ ['\x22'])

/-- What stands behind the equals sign of a plain line. -/
inductive PlainValue where
  | text (v : PlainText)
  | list (vs : List PlainText)

/-- What a value means. -/
def PlainValue.value : PlainValue → Value
  | text v => .string v.text
  | list vs => .array (vs.map fun v => .string v.text)

/-- How a value is written. -/
def PlainValue.written : PlainValue → List Char
  | text v => v.quoted
  | list vs => '[' :: ([',', ' '].intercalate (vs.map PlainText.quoted) ++ [']'])

theorem PlainText.quoted_append (v : PlainText) (s : List Char) :
    v.quoted ++ s = '\x22' :: (v.text.toList ++ '\x22' :: s) := by
  unfold quoted
  rw [List.cons_append, List.append_assoc]
  rfl

theorem PlainText.length_lt_length_quoted (v : PlainText) (lead between s : List Char) :
    s.length < (lead ++ (v.quoted ++ (between ++ s))).length := by
  rw [v.quoted_append, List.length_append, List.length_cons, List.length_append, List.length_cons,
    List.length_append]
  omega

/-- A plain text is read as a string. -/
theorem PlainText.reads_readValueOver (v : PlainText) (inner? : Option (Reader Value))
    {s : List Char} (hs : s.head? ≠ some '\x22') :
    Reads (readValueOver inner?) (v.quoted ++ s) (.string v.text) s := by
  rw [v.quoted_append]
  exact (reads_peek? _ _).bind ((v.reads_readString hs).bind (Reads.pure _ _))

/-- The texts of a list are read up to the bracket that closes it. -/
theorem reads_readItems (inner? : Option (Reader Value)) (vs : List PlainText) (s : List Char) :
    Reads (readItems ']' (readValueOver inner?))
      ([',', ' '].intercalate (vs.map PlainText.quoted) ++ ']' :: s)
      (vs.map fun v => .string v.text) (']' :: s) := by
  refine Steps.reads_many ?_
  -- behind a comma there is a blank
  suffices h : ∀ lead : List Char, (∀ c ∈ lead, isBlank c = true) →
      Steps _ (lead ++ ([',', ' '].intercalate (vs.map PlainText.quoted) ++ ']' :: s))
        (vs.map fun v => Value.string v.text) (']' :: s) from h [] (List.forall_mem_nil _)
  -- none of these characters is skipped as space, comment or line end
  have hclose : opensToken ']' = true := by decide
  have hquote : opensToken '\x22' = true := by decide
  have hcomma : opensToken ',' = true := by decide
  induction vs with
  | nil =>
    intro lead hlead
    refine .done ?_
    exact (reads_skipTrivia 0 hlead hclose s).bind ((reads_peek? _ _).bind (Reads.pure _ _))
  | cons v vs ih =>
    intro lead hlead
    cases vs with
    | nil =>
      refine .more ?_ ?_ (ih [] (List.forall_mem_nil _))
      · -- the last item: behind it the list is closed
        have hvalue := v.reads_readValueOver inner? (s := ']' :: s) (by simp)
        rw [List.map_singleton, List.intercalate_singleton]
        rw [v.quoted_append] at hvalue ⊢
        refine (reads_skipTrivia 0 hlead hquote _).bind ((reads_peek? _ _).bind (hvalue.bind ?_))
        refine (reads_skipTrivia_nil hclose s).bind ((reads_takeIf_of_ne (by decide) s).bind ?_)
        exact (reads_peek? _ _).bind ((reads_guard (by rfl) _).bind (Reads.pure _ _))
      · rw [List.map_singleton, List.intercalate_singleton]
        exact v.length_lt_length_quoted lead [] (']' :: s)
    | cons w vs =>
      have hrest := ih [' '] (List.forall_mem_singleton.2 rfl)
      rw [List.map_cons, List.map_cons, List.intercalate_cons_cons, List.append_assoc,
        List.append_assoc]
      refine .more ?_ ?_ hrest
      · -- a further item: behind the comma the list goes on with a blank
        have hvalue := v.reads_readValueOver inner? (s := ',' :: ' ' ::
          ([',', ' '].intercalate (w.quoted :: vs.map PlainText.quoted) ++ ']' :: s)) (by simp)
        show Reads _ (lead ++ (v.quoted ++ ',' :: ' ' ::
          ([',', ' '].intercalate (w.quoted :: vs.map PlainText.quoted) ++ ']' :: s))) _ _
        rw [v.quoted_append] at hvalue ⊢
        refine (reads_skipTrivia 0 hlead hquote _).bind ((reads_peek? _ _).bind (hvalue.bind ?_))
        refine (reads_skipTrivia_nil hcomma _).bind ((reads_takeIf _ _).bind ?_)
        exact Reads.pure _ _
      · exact v.length_lt_length_quoted lead [','] _

/-- **A value is read as it is written**, if the line goes on with no quote. -/
theorem PlainValue.reads_readValue (v : PlainValue) {s : List Char} (hs : s.head? ≠ some '\x22') :
    Reads (readValue maxDepth) (v.written ++ s) v.value s := by
  cases v with
  | text v => exact v.reads_readValueOver _ hs
  | list vs =>
    have hitems := reads_readItems (some (readValue 78)) vs s
    unfold written
    rw [List.cons_append, List.append_assoc]
    -- one level of nesting is used up by the list, and its items are no deeper
    have hinner : ∀ s, Reads (liftM (some (readValue 79)) : Reader (Reader Value)) s
        (readValue 79) s := fun _ => rfl
    refine (reads_peek? _ _).bind ((hinner _).bind ((reads_take _ _).bind (hitems.bind ?_)))
    exact (reads_take _ _).bind (Reads.pure _ _)

/-! ### Lines -/

/-- A line with a key and a value. -/
structure PlainLine where
  key : BareKey
  value : PlainValue

/-- The line of a text under a key. -/
def PlainLine.ofText (key : BareKey) (v : PlainText) : PlainLine :=
  ⟨key, .text v⟩

/-- How a line is written, up to its end. -/
def PlainLine.written (line : PlainLine) : List Char :=
  line.key.text.toList ++ ' ' :: '=' :: ' ' :: line.value.written

/-- What a line says. -/
def PlainLine.assignment (line : PlainLine) : Assignment :=
  ⟨[], line.key.text, line.value.value⟩

theorem PlainValue.exists_written (v : PlainValue) :
    ∃ c u, v.written = c :: u ∧ isBlank c = false := by
  cases v with
  | text v => exact ⟨'\x22', _, rfl, rfl⟩
  | list vs => exact ⟨'[', _, rfl, rfl⟩

/-- The step of `readPath` for a further key. -/
def dottedKey : Reader (Option String) := do
  skipBlanks
  if ← Reader.takeIf '.' then
    skipBlanks
    return some (← readKey)
  else return none

theorem reads_dottedKey_of_ne {lead : List Char} (hlead : ∀ c ∈ lead, isBlank c = true) {c : Char}
    (hblank : isBlank c = false) (hdot : c ≠ '.') (s : List Char) :
    Reads dottedKey (lead ++ c :: s) none (c :: s) :=
  (reads_skipBlanks hlead hblank s).bind ((reads_takeIf_of_ne hdot s).bind (Reads.pure _ _))

/-- A path of a single key. -/
theorem BareKey.reads_readPath (key : BareKey) {c d : Char} (hkey : isBareKeyChar c = false)
    {s s' : List Char} (hend : Reads dottedKey (c :: s) none (d :: s')) :
    Reads readPath (key.text.toList ++ c :: s) ([], key.text) (d :: s') := by
  refine (key.reads_readKey hkey _).bind ?_
  refine (Steps.reads_many (Steps.done hend)).bind ?_
  exact (reads_guard (by decide) _).bind (Reads.pure _ _)

theorem PlainLine.reads_readAssignment (line : PlainLine) (s : List Char) :
    Reads (readAssignment skipBlanks (readValue maxDepth)) (line.written ++ '\n' :: s)
      line.assignment ('\n' :: s) := by
  have hblank : ∀ c ∈ [' '], isBlank c = true := List.forall_mem_singleton.2 rfl
  -- the characters around the equals sign are read before the value, of which the first one must be
  -- known
  obtain ⟨c, u, hvalue, hc⟩ := line.value.exists_written
  have hread := line.value.reads_readValue (s := '\n' :: s) (by simp)
  have hequals : '=' ≠ '.' := by decide
  have hpath := line.key.reads_readPath (by decide)
    (reads_dottedKey_of_ne hblank rfl hequals (' ' :: (line.value.written ++ '\n' :: s)))
  unfold written
  rw [List.append_assoc]
  refine hpath.bind ((reads_skipBlanks_nil rfl _).bind ((reads_take _ _).bind ?_))
  rw [hvalue] at hread ⊢
  exact (reads_skipBlanks hblank hc _).bind (hread.bind (Reads.pure _ _))

/-- The rest of `readStatement` behind what a line says: it goes up to the end of the line. -/
def endOfLine (statement : Statement) : Reader (Option Statement) := do
  skipBlanks
  skipComment
  if !(← Reader.atEnd) then guard (← newlineIf)
  return some statement

theorem reads_endOfLine (statement : Statement) (s : List Char) :
    Reads (endOfLine statement) ('\n' :: s) (some statement) s := by
  refine (reads_skipBlanks_nil rfl _).bind ((reads_skipComment_of_ne (by decide) _).bind ?_)
  refine (reads_atEnd _ _).bind ((reads_newlineIf _).bind ?_)
  exact (reads_guard rfl _).bind (Reads.pure _ _)

theorem opensToken_of_isBareKeyChar {c : Char} (h : isBareKeyChar c = true) :
    opensToken c = true := by
  unfold opensToken isBlank
  simp only [Bool.and_eq_true, Bool.not_eq_true', Bool.or_eq_false_iff, beq_eq_false_iff_ne,
    bne_iff_ne]
  refine ⟨⟨⟨⟨?_, ?_⟩, ?_⟩, ?_⟩, ?_⟩ <;> (rintro rfl; contradiction)

theorem isBlank_of_isBareKeyChar {c : Char} (h : isBareKeyChar c = true) : isBlank c = false := by
  have hopens := opensToken_of_isBareKeyChar h
  unfold opensToken at hopens
  simp only [Bool.and_eq_true, Bool.not_eq_true'] at hopens
  exact hopens.1.1.1

/-- **A line is read as what it says.** -/
theorem PlainLine.reads_readStatement (line : PlainLine) (s : List Char) :
    Reads readStatement (line.written ++ '\n' :: s) (some (.assignment line.assignment)) s := by
  obtain ⟨c, u, hkey, hbare⟩ := line.key.exists_cons
  -- a line that begins with a bracket would be a header
  have hne : ¬ (some c == some '[') = true := by
    intro h
    obtain rfl := Option.some.inj (eq_of_beq h)
    contradiction
  have hread := (line.reads_readAssignment s).map Statement.assignment
  obtain ⟨u, hwritten⟩ : ∃ u, line.written = c :: u := by
    unfold written
    rw [hkey]
    exact ⟨_, rfl⟩
  rw [hwritten, List.cons_append] at hread ⊢
  refine (reads_skipTrivia_nil (opensToken_of_isBareKeyChar hbare) _).bind ?_
  refine (reads_atEnd _ _).bind ((reads_peek? _ _).bind ?_)
  dsimp only
  rw [if_neg hne]
  exact hread.bind (reads_endOfLine _ _)

end Stencil.Config.Toml
