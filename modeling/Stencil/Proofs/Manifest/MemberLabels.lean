import Mathlib
import Stencil.Proofs.Manifest.Labels
import Stencil.Proofs.Manifest.SheetReading
import Stencil.Proofs.Text.QuotedItems

/-!
# The labels of repeated members

The places of a repeated name are looked for in the text of the manifest, wherever the name stands
in quotes. In a manifest that is laid out these are the rows that quote it (`Row.quoted`): a name of
a member, but as well the name of the class, a type, a line of a body, or a member of the other
kind. And the quotes that end one item of a list and open the next one enclose what separates them.

So the labels are where they should be, at the names of the first two members of the kind that bear
the name, **exactly if no row before the second of them quotes it otherwise**
(`labels_at_names_iff`). A field that is called as two methods has the first of their labels
(`labels_runTwice_run`).
-/

namespace Stencil.Sheet

open Config Config.Toml
open Text (Span inQuotes spanBehind quotedSpans)

/-! ### Quoted rows -/

theorem quote_not_mem_bareKey (key : BareKey) : '\x22' ∉ key.text.toList := by
  intro hmem
  have hbare := key.isBareKeyChar_of_mem _ hmem
  contradiction

theorem quote_not_mem_heading (heading : Heading) : '\x22' ∉ heading.written := by
  have hkeys : '\x22' ∉ heading.keysWritten := by
    obtain ⟨parent, key, isElement⟩ := heading
    unfold Heading.keysWritten
    cases parent with
    | none => simpa using quote_not_mem_bareKey key
    | some parent => simpa using ⟨quote_not_mem_bareKey parent, quote_not_mem_bareKey key⟩
  unfold Heading.written
  split <;> simpa using hkeys

theorem quote_not_mem_plainText (v : PlainText) : '\x22' ∉ v.text.toList := by
  intro hmem
  have hplain := v.isUnescaped_of_mem _ hmem
  contradiction

theorem newline_not_mem_plainText (v : PlainText) : '\n' ∉ v.text.toList := by
  intro hmem
  have hplain := v.isUnescaped_of_mem _ hmem
  contradiction

/-- A name stands in quotes behind the beginning of a line if it is one of the texts that are listed
there, or what separates them. -/
theorem inQuotes_infix_texts_iff {name : String} (hname : '\x22' ∉ name.toList)
    {start stop : List Char} (hstart : '\x22' ∉ start) (hstop : '\x22' ∉ stop)
    (vs : List PlainText) :
    inQuotes name.toList <:+:
        start ++ ([',', ' '].intercalate (vs.map PlainText.quoted) ++ stop) ↔
      name ∈ (vs.map (·.text)).intersperse ", " := by
  -- no quoted item has a quote inside, so quotes stand only around items
  have hitems : ∀ item ∈ (vs.map (·.text)).map String.toList, '\x22' ∉ item := by
    intro item hitem
    obtain ⟨text, htext, rfl⟩ := List.mem_map.1 hitem
    obtain ⟨v, -, rfl⟩ := List.mem_map.1 htext
    exact quote_not_mem_plainText v
  have hquoted : vs.map PlainText.quoted =
      ((vs.map (·.text)).map String.toList).map inQuotes := by
    rw [List.map_map, List.map_map]
    rfl
  have hseparator : ", ".toList = [',', ' '] := rfl
  have hcomma : '\x22' ∉ [',', ' '] := by decide
  rw [Text.inQuotes_infix_append_iff hstart, hquoted,
    Text.infix_items_iff hname hcomma hstop hitems, ← hseparator, ← Text.map_intersperse,
    List.mem_map]
  constructor
  · rintro ⟨text, htext, heq⟩
    rwa [← String.toList_inj.1 heq]
  · intro h
    exact ⟨name, h, rfl⟩

/-- **A name stands in quotes in a row** if the row quotes it, or if it is what stands between two
quoted items of its list. -/
theorem Row.inQuotes_infix_written_iff {name : String} (hname : '\x22' ∉ name.toList) (row : Row) :
    inQuotes name.toList <:+: row.written ↔ name ∈ row.quoted := by
  -- without a quote there is no name in quotes
  have hnot : ∀ {u : List Char}, '\x22' ∉ u → ¬ inQuotes name.toList <:+: u := by
    intro u hu h
    exact hu (h.subset List.mem_cons_self)
  cases row with
  | blank => exact iff_of_false (hnot List.not_mem_nil) List.not_mem_nil
  | header heading =>
    exact iff_of_false (hnot (quote_not_mem_heading heading)) List.not_mem_nil
  | line member l =>
    obtain ⟨key, value⟩ := l
    cases value with
    | text v =>
      -- a single text is a list of one, with nothing behind it
      have hstart : '\x22' ∉ key.text.toList ++ [' ', '=', ' '] := by
        simpa using quote_not_mem_bareKey key
      have htexts := inQuotes_infix_texts_iff hname hstart List.not_mem_nil [v]
      rw [List.map_singleton, List.intercalate_singleton, List.append_nil,
        List.append_assoc] at htexts
      exact htexts
    | list vs =>
      -- the brackets of a list have no quotes
      have hstart : '\x22' ∉ key.text.toList ++ [' ', '=', ' ', '['] := by
        simpa using quote_not_mem_bareKey key
      have hstop : '\x22' ∉ [']'] := by decide
      have htexts := inQuotes_infix_texts_iff hname hstart hstop vs
      rw [List.append_assoc] at htexts
      exact htexts

/-- A name stands in quotes in some rows, or behind them up to the first quote there, if one of
the rows quotes it. -/
theorem inQuotes_infix_rowsWritten_iff {name : String} (hname : '\x22' ∉ name.toList)
    (hline : '\n' ∉ name.toList) (rows : List Row) {start : List Char} (hstart : '\x22' ∉ start) :
    inQuotes name.toList <:+: rowsWritten rows ++ start ++ ['\x22'] ↔
      ∃ row ∈ rows, name ∈ row.quoted := by
  have hneedle : '\n' ∉ inQuotes name.toList := by
    simpa [inQuotes] using hline
  -- behind the last row there is only one quote, and a name in quotes needs two
  have hlast : ¬ inQuotes name.toList <:+: start ++ ['\x22'] := by
    rw [Text.inQuotes_infix_append_iff hstart]
    exact Text.not_inQuotes_infix_cons List.not_mem_nil
  -- every row ends its line, so a name in quotes is in one row
  have hrows : rowsWritten rows = (rows.map Row.written).flatMap (· ++ ['\n']) := by
    rw [List.flatMap_map]
    rfl
  rw [List.append_assoc, hrows, Text.infix_lines_iff hneedle, or_iff_left hlast]
  constructor
  · rintro ⟨line, hmem, hinfix⟩
    obtain ⟨row, hrow, rfl⟩ := List.mem_map.1 hmem
    exact ⟨row, hrow, (row.inQuotes_infix_written_iff hname).1 hinfix⟩
  · rintro ⟨row, hrow, hmem⟩
    exact ⟨row.written, List.mem_map_of_mem hrow, (row.inQuotes_infix_written_iff hname).2 hmem⟩

/-! ### Rows that give names -/

/-- What stands before the name in a row that gives one. -/
def beforeName : List Char :=
  "name = ".toList

/-- A row that gives a name says nothing else. -/
theorem Row.exists_of_name? {kind : MemberKind} {name : String} {row : Row}
    (h : row.name? kind = some name) : ∃ v : PlainText, v.text = name ∧
      row.written = beforeName ++ inQuotes name.toList := by
  cases row with
  | blank => contradiction
  | header heading => contradiction
  | line member l =>
    obtain ⟨key, value⟩ := l
    obtain ⟨-, hname⟩ := (Option.ite_none_right_eq_some).1 h
    obtain ⟨hkey, hvalue⟩ := (Option.ite_none_right_eq_some).1 hname
    cases value with
    | list vs => contradiction
    | text v =>
      obtain rfl : v.text = name := Option.some.inj hvalue
      refine ⟨v, rfl, ?_⟩
      show key.text.toList ++ ' ' :: '=' :: ' ' :: inQuotes v.text.toList = _
      have hkey : key.text = "name" := hkey
      rw [hkey]
      rfl

/-- The first item of a list that yields something is behind items that do not. -/
theorem exists_split_of_filterMap_eq {α β : Type} {f : α → Option β} {l : List α} {u v : List β}
    {b : β} (h : l.filterMap f = u ++ b :: v) (hb : b ∉ u) :
    ∃ before a after, l = before ++ a :: after ∧ f a = some b ∧ (∀ x ∈ before, f x ≠ some b) ∧
      after.filterMap f = v := by
  -- those before the item yield other things than it or nothing
  obtain ⟨first, rest, rfl, hfirst, hrest⟩ := List.filterMap_eq_append_iff.1 h
  obtain ⟨skipped, a, after, rfl, hskipped, ha, hafter⟩ := List.filterMap_eq_cons_iff.1 hrest
  refine ⟨first ++ skipped, a, after, by rw [List.append_assoc], ha, ?_, hafter⟩
  intro x hx hsome
  rcases List.mem_append.1 hx with hx | hx
  · -- what comes before the first of them yields what stands before it
    exact hb (hfirst ▸ List.mem_filterMap.2 ⟨x, hx, hsome⟩)
  · rw [hskipped x hx] at hsome
    contradiction

/-- **The first two rows that give a name to members of a kind**, with the rows before, between and
behind them. -/
structure FirstTwo (rows : List Row) (kind : MemberKind) (name : String) (before : List Row)
    (first : Row) (between : List Row) (again : Row) (after : List Row) : Prop where
  split : rows = before ++ first :: (between ++ again :: after)
  first_name? : first.name? kind = some name
  again_name? : again.name? kind = some name
  others : ∀ row ∈ before ++ between, row.name? kind ≠ some name

/-- A repeated name is given twice. -/
theorem exists_firstTwo {kind : MemberKind} {name : String} {rows : List Row}
    (h : RepeatsFirst (rows.filterMap (Row.name? kind)) name) :
    ∃ before first between again after,
      FirstTwo rows kind name before first between again after := by
  obtain ⟨earlier, later, hsplit, hnodup, hmem⟩ := h
  -- those before the repeated name differ, so it is just once among them
  obtain ⟨u, v, rfl, hu⟩ := List.eq_append_cons_of_mem hmem
  have hv : name ∉ v := (List.nodup_cons.1 (List.nodup_append.1 hnodup).2.1).1
  rw [List.append_assoc, List.cons_append] at hsplit
  obtain ⟨before, first, rest, rfl, hfirst, hbefore, hrest⟩ :=
    exists_split_of_filterMap_eq hsplit hu
  obtain ⟨between, again, after, rfl, hagain, hbetween, -⟩ :=
    exists_split_of_filterMap_eq hrest hv
  refine ⟨before, first, between, again, after, rfl, hfirst, hagain, fun row hrow => ?_⟩
  rcases List.mem_append.1 hrow with hrow | hrow
  · exact hbefore row hrow
  · exact hbetween row hrow

/-- There are only one first and one second row that give a name. -/
theorem FirstTwo.unique {kind : MemberKind} {name : String}
    {rows before between after before' between' after' : List Row} {first again first' again' : Row}
    (h : FirstTwo rows kind name before first between again after)
    (h' : FirstTwo rows kind name before' first' between' again' after') :
    before = before' ∧ first = first' ∧ between = between' := by
  -- the first row of the two splits all rows, and the second one those behind it
  obtain ⟨hbefore, hfirst, hrest⟩ := Text.append_cons_inj_of
    (fun row hrow => h.others row (List.mem_append_left _ hrow))
    (fun row hrow => h'.others row (List.mem_append_left _ hrow))
    h.first_name? h'.first_name? (h.split.symm.trans h'.split)
  obtain ⟨hbetween, -, -⟩ := Text.append_cons_inj_of
    (fun row hrow => h.others row (List.mem_append_right _ hrow))
    (fun row hrow => h'.others row (List.mem_append_right _ hrow))
    h.again_name? h'.again_name? hrest
  exact ⟨hbefore, hfirst, hbetween⟩

/-! ### Labels -/

/-- The place of a name in a row that stands behind others. -/
def placeBehind (before : List Row) (name : String) : Span :=
  spanBehind (rowsWritten before ++ beforeName) name.toList

/-- Two places are told as the labels of a repeated name if they are the first two that are found.
-/
theorem labels_duplicate_eq_iff {text name : String} {kind : MemberKind} {first again : Span}
    (hfirst : first ≠ ⟨0, 0⟩) (hne : again ≠ first) :
    Problem.labels text (.duplicate kind name) =
        [⟨some s!"first {kind.text}", first⟩, ⟨some "same name again", again⟩] ↔
      ∃ spans, quotedSpans text name = first :: again :: spans := by
  unfold Problem.labels
  dsimp only
  simp only [List.cons.injEq, Label.mk.injEq, true_and, and_true]
  cases quotedSpans text name with
  | nil => exact iff_of_false (fun h => hfirst h.1.symm) (by simp)
  | cons a spans =>
    cases spans with
    | nil =>
      -- a single place would be told twice
      exact iff_of_false (fun h => hne (h.2.symm.trans h.1)) (by simp)
    | cons b spans => simp

section

variable {v : PlainText} {before between after : List Row} {first again : Row}

/-- What stands before the second of two rows that give a name. The end of the first one counts as
an empty row. -/
theorem rowsWritten_before_again (hfirst : first.written = beforeName ++ inQuotes v.text.toList) :
    rowsWritten (before ++ first :: between) ++ beforeName =
      rowsWritten before ++ beforeName ++ inQuotes v.text.toList ++
        (rowsWritten (.blank :: between) ++ beforeName) := by
  rw [rowsWritten_append, rowsWritten_cons, rowsWritten_cons, hfirst]
  simp only [Row.written, List.append_assoc, List.nil_append]

theorem placeBehind_ne (hfirst : first.written = beforeName ++ inQuotes v.text.toList) :
    placeBehind (before ++ first :: between) v.text ≠ placeBehind before v.text := by
  intro h
  have hoffset := congrArg Span.offset h
  unfold placeBehind spanBehind at hoffset
  rw [rowsWritten_before_again hfirst, Text.byteLength_append (_ ++ _ ++ _),
    byteLength_append_inQuotes] at hoffset
  dsimp only at hoffset
  omega

/-- **The first two places of a name in a text of rows** are those where two rows give it, if no row
before the second of them quotes it otherwise. -/
theorem exists_quotedSpans_eq_iff {text : String}
    (htext : text.toList = rowsWritten (before ++ first :: (between ++ again :: after)))
    (hfirst : first.written = beforeName ++ inQuotes v.text.toList)
    (hagain : again.written = beforeName ++ inQuotes v.text.toList) :
    (∃ spans, quotedSpans text v.text =
        placeBehind before v.text :: placeBehind (before ++ first :: between) v.text :: spans) ↔
      ∀ row ∈ before ++ between, v.text ∉ row.quoted := by
  have hquote := quote_not_mem_plainText v
  have hline := newline_not_mem_plainText v
  have hname : '\x22' ∉ beforeName := by decide
  -- in the text the two names stand behind their rows, and the rest is around them
  have hsplit : text.toList = rowsWritten before ++ beforeName ++ inQuotes v.text.toList ++
      (rowsWritten (.blank :: between) ++ beforeName ++ inQuotes v.text.toList ++
        '\n' :: rowsWritten after) := by
    rw [htext, rowsWritten_append, rowsWritten_cons, rowsWritten_append, rowsWritten_cons again,
      rowsWritten_cons .blank, hfirst, hagain]
    simp only [Row.written, List.append_assoc, List.nil_append, List.cons_append]
  unfold placeBehind
  -- each of the two is found if nothing that is so quoted comes before it
  rw [rowsWritten_before_again hfirst, Text.exists_quotedSpans_eq_iff hquote hsplit,
    inQuotes_infix_rowsWritten_iff hquote hline before hname,
    inQuotes_infix_rowsWritten_iff hquote hline (.blank :: between) hname]
  simp [or_imp, forall_and, Row.quoted]

end

/-- A repeated name is given by rows of its kind. -/
theorem repeatsFirst_filterMap_rows {s : Sheet} {file : String} {m : Manifest}
    (hread : readDocument (manifestSchema .toml) file s.text = .ok m) {kind : MemberKind}
    {name : String} (h : m.RejectedFor (.duplicate kind name)) :
    RepeatsFirst (s.rows.filterMap (Row.name? kind)) name := by
  have hrepeats : RepeatsFirst (m.memberNames kind) name := by
    cases h with
    | field _ _ _ h => exact h
    | method _ _ _ _ h => exact h
  -- the repeated name is not one of a list without repetitions
  have hnames := (linesNames_of_readDocument hread kind).resolve_left fun hnodup => by
    obtain ⟨earlier, later, hsplit, -, hmem⟩ := hrepeats
    rw [hsplit, List.nodup_middle, List.nodup_cons] at hnodup
    exact hnodup.1 (List.mem_append_left _ hmem)
  rwa [s.filterMap_rows, hnames]

/-- **Which labels a repeated name has in a manifest that is laid out.** They are at the names of
the first two members of the kind that bear it if no row before the second of them quotes the name
for anything else, and else at other places. -/
theorem labels_at_names_iff {s : Sheet} {file : String} {kind : MemberKind} {name : String}
    {labels : List Label}
    (h : Manifest.parse file s.text = .error (.rejected (.duplicate kind name) labels)) :
    ∃ before first between again after,
      FirstTwo s.rows kind name before first between again after ∧
      (labels = [⟨some s!"first {kind.text}", placeBehind before name⟩,
          ⟨some "same name again", placeBehind (before ++ first :: between) name⟩] ↔
        ∀ row ∈ before ++ between, name ∉ row.quoted) := by
  -- the manifest was read, so its names are those that its rows give
  obtain ⟨m, hread, hrejected, rfl⟩ := Manifest.exists_of_parse_eq_rejected h
  obtain ⟨before, first, between, again, after, htwo⟩ :=
    exists_firstTwo (repeatsFirst_filterMap_rows hread hrejected)
  refine ⟨before, first, between, again, after, htwo, ?_⟩
  obtain ⟨v, rfl, hfirst⟩ := Row.exists_of_name? htwo.first_name?
  obtain ⟨-, -, hagain⟩ := Row.exists_of_name? htwo.again_name?
  rw [← exists_quotedSpans_eq_iff (htwo.split ▸ s.text_toList) hfirst hagain]
  refine labels_duplicate_eq_iff ?_ (placeBehind_ne hfirst)
  -- the first quote of the name stands before its place
  intro hzero
  exact Nat.succ_ne_zero _ (congrArg Span.offset hzero)

/-- **Labels are at the names**: whenever the manifest is rejected for a repeated name, they are at
the names of the first two members of the kind that bear it. -/
def LabelsAtNames (s : Sheet) (file : String) : Prop :=
  ∀ (kind : MemberKind) (name : String) (labels : List Label),
    Manifest.parse file s.text = .error (.rejected (.duplicate kind name) labels) →
      ∃ before first between again after,
        FirstTwo s.rows kind name before first between again after ∧
        labels = [⟨some s!"first {kind.text}", placeBehind before name⟩,
          ⟨some "same name again", placeBehind (before ++ first :: between) name⟩]

/-- The name of the two methods. -/
def run : PlainText :=
  .mk "run"

/-- A manifest with a field and two methods, which are both called `run`. -/
def runTwice (field : PlainText) : Sheet where
  generator := [.ofText (.mk "marker") (.mk "m")]
  template := [.ofText (.mk "class_name") (.mk "A")]
  fields := [[.ofText (.mk "name") field, .ofText (.mk "type") (.mk "int")]]
  methods := [[.ofText (.mk "name") run], [.ofText (.mk "name") run]]

set_option maxRecDepth 4000 in
/-- If the field has another name, both labels are at the methods. -/
theorem labels_runTwice_age :
    ∃ labels : List Label,
      Manifest.parse "etch.toml" (runTwice (.mk "age")).text =
        .error (.rejected (.duplicate .method "run") labels) ∧
      labels = [⟨some "first method", ⟨131, 3⟩⟩, ⟨some "same name again", ⟨166, 3⟩⟩] ∧
      ∃ before first between again after,
        FirstTwo (runTwice (.mk "age")).rows .method "run" before first between again after ∧
        (labels = [⟨some "first method", placeBehind before "run"⟩,
            ⟨some "same name again", placeBehind (before ++ first :: between) "run"⟩] ↔
          ∀ row ∈ before ++ between, "run" ∉ row.quoted) := by
  -- the manifest is evaluated as a whole, from its text to the labels
  have hparse : Manifest.parse "etch.toml" (runTwice (.mk "age")).text =
      .error (.rejected (.duplicate .method "run")
        [⟨some "first method", ⟨131, 3⟩⟩, ⟨some "same name again", ⟨166, 3⟩⟩]) := by
    cbv
  exact ⟨_, hparse, rfl, labels_at_names_iff hparse⟩

set_option maxRecDepth 4000 in
/-- **If the field has the name of the methods, it has the first label**, and the first method has
the second one. So the labels are not at the names. -/
theorem labels_runTwice_run :
    Manifest.parse "etch.toml" (runTwice run).text = .error (.rejected (.duplicate .method "run")
        [⟨some "first method", ⟨83, 3⟩⟩, ⟨some "same name again", ⟨131, 3⟩⟩]) ∧
      (∃ before first between again after,
        FirstTwo (runTwice run).rows .method "run" before first between again after ∧
          placeBehind before "run" = ⟨131, 3⟩ ∧
          placeBehind (before ++ first :: between) "run" = ⟨166, 3⟩) ∧
      ¬ (runTwice run).LabelsAtNames "etch.toml" := by
  have hparse : Manifest.parse "etch.toml" (runTwice run).text =
      .error (.rejected (.duplicate .method "run")
        [⟨some "first method", ⟨83, 3⟩⟩, ⟨some "same name again", ⟨131, 3⟩⟩]) := by
    cbv
  -- the twelfth row gives the name to the first method, and the last one to the second
  have hothers : ∀ row ∈ (runTwice run).rows.take 11 ++ ((runTwice run).rows.drop 12).take 2,
      row.name? .method ≠ some "run" := by
    decide +kernel
  have htwo : FirstTwo (runTwice run).rows .method "run" ((runTwice run).rows.take 11)
      (.line (some .method) (.ofText (.mk "name") run)) (((runTwice run).rows.drop 12).take 2)
      (.line (some .method) (.ofText (.mk "name") run)) [] := ⟨rfl, rfl, rfl, hothers⟩
  have hplace : placeBehind ((runTwice run).rows.take 11) "run" = ⟨131, 3⟩ := by
    decide +kernel
  refine ⟨hparse, ⟨_, _, _, _, _, htwo, hplace, ?_⟩, fun hnames => ?_⟩
  · decide +kernel
  · -- the first label would be at the first method
    obtain ⟨before, first, between, again, after, htwo', hlabels⟩ := hnames .method "run" _ hparse
    obtain ⟨rfl, -, -⟩ := htwo.unique htwo'
    have hspan := (Label.mk.inj (List.cons_eq_cons.1 hlabels).1).2
    rw [hplace] at hspan
    exact absurd hspan (by decide)

end Stencil.Sheet
