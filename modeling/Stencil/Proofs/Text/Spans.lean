import Stencil.Proofs.Text.Occurrences

/-!
# Spans of a text

A span of a text is told in bytes of its UTF-8 form. `Covers` says that it is just a given text that
stands there between two others: a key before its equals sign (`CoversKey`), or a value between
double quotes (`CoversQuoted`). So a span that covers anything begins and ends between two
characters and is not too long for the text.

`keySpan?` finds such a span of a key if there is one, and what `quotedSpans` finds first is the
leftmost one of a value (`IsLeftmost.quotedSpans_eq`).
-/

namespace Stencil.Text

/-! ### Spans of what stands in a text -/

/-- **A span of a text that covers a value** where it stands between two other texts. -/
def Covers (text left value right : String) (span : Span) : Prop :=
  ∃ before after, text = before ++ left ++ value ++ right ++ after ∧
    span = ⟨(before ++ left).utf8ByteSize, value.utf8ByteSize⟩

/-- The span covers a key before an equals sign. -/
def CoversKey (text key : String) (span : Span) : Prop :=
  Covers text "" key " =" span ∨ Covers text "" key "=" span

/-- The span covers a value between double quotes. -/
def CoversQuoted (text value : String) (span : Span) : Prop :=
  Covers text "\x22" value "\x22" span

theorem covers_iff {text left value right : String} {span : Span} :
    Covers text left value right span ↔
      ∃ before after,
        text.toList = before ++ (left.toList ++ value.toList ++ right.toList) ++ after ∧
        span = ⟨byteLength before + byteLength left.toList, byteLength value.toList⟩ := by
  unfold Covers
  simp only [byteLength_toList, String.utf8ByteSize_append]
  constructor
  · rintro ⟨before, after, rfl, rfl⟩
    refine ⟨before.toList, after.toList, ?_, by rw [byteLength_toList]⟩
    simp only [String.toList_append, List.append_assoc]
  · rintro ⟨before, after, htext, rfl⟩
    refine ⟨String.ofList before, String.ofList after, ?_, by rw [byteLength_eq]⟩
    rw [← String.toList_inj, htext]
    simp only [String.toList_append, String.toList_ofList, List.append_assoc]

/-! ### Keys -/

theorem head?_occurrences_eq_none_iff {needle text : List Char} (hne : needle ≠ []) :
    (occurrences needle text).head? = none ↔ ¬ needle <:+: text := by
  unfold occurrences
  constructor
  · intro h hinfix
    -- the finder begins with the leftmost occurrence, if there is any
    obtain ⟨before, after, hleftmost⟩ := exists_isLeftmost hinfix
    rw [hleftmost.occurrencesFrom_eq hne] at h
    contradiction
  · intro h
    rw [occurrencesFrom_eq_nil h]
    rfl

theorem exists_of_head?_occurrences {needle text : List Char} {offset : Nat} (hne : needle ≠ [])
    (h : (occurrences needle text).head? = some offset) :
    ∃ before after, text = before ++ needle ++ after ∧ offset = byteLength before := by
  -- what is found first is leftmost, whatever else is found
  by_cases hinfix : needle <:+: text
  · obtain ⟨before, after, hleftmost⟩ := exists_isLeftmost hinfix
    refine ⟨before, after, hleftmost.split, ?_⟩
    unfold occurrences at h
    rw [hleftmost.occurrencesFrom_eq hne, List.head?_cons, Option.some.injEq, Nat.zero_add] at h
    exact h.symm
  · rw [(head?_occurrences_eq_none_iff hne).2 hinfix] at h
    contradiction

theorem keySpan?_eq_none {text key : String} (h : Text.keySpan? text key = none) (span : Span) :
    ¬ CoversKey text key span := by
  -- both endings are looked for in the same way, and nothing was found
  have hnot : ∀ ending : String, ending.toList ≠ [] →
      (occurrences (key.toList ++ ending.toList) text.toList).head? = none →
        ¬ Covers text "" key ending span := by
    rintro ending hending hnone hcovers
    obtain ⟨before, after, htext, -⟩ := covers_iff.1 hcovers
    refine (head?_occurrences_eq_none_iff (List.append_ne_nil_of_right_ne_nil _ hending)).1 hnone ?_
    exact ⟨before, after, htext.symm⟩
  -- the one with the space is looked for first, and the other one only if there is none
  unfold Text.keySpan? at h
  rw [Option.map_eq_none_iff, Option.orElse_eq_orElse, Option.orElse_eq_or,
    Option.or_eq_none_iff] at h
  rintro (hcovers | hcovers)
  · exact hnot " =" (by decide) h.1 hcovers
  · exact hnot "=" (by decide) h.2 hcovers

theorem coversKey_of_keySpan? {text key : String} {span : Span}
    (h : Text.keySpan? text key = some span) : CoversKey text key span := by
  -- with either ending, the first occurrence covers the key
  have hcovers : ∀ (ending : String) {offset : Nat}, ending.toList ≠ [] →
      (occurrences (key.toList ++ ending.toList) text.toList).head? = some offset →
        Covers text "" key ending ⟨offset, byteLength key.toList⟩ := by
    intro ending offset hending hsome
    obtain ⟨before, after, htext, rfl⟩ :=
      exists_of_head?_occurrences (List.append_ne_nil_of_right_ne_nil _ hending) hsome
    exact covers_iff.2 ⟨before, after, htext, rfl⟩
  unfold Text.keySpan? at h
  obtain ⟨offset, hoffset, rfl⟩ := Option.map_eq_some_iff.1 h
  rw [Option.orElse_eq_orElse, Option.orElse_eq_or, Option.or_eq_some_iff] at hoffset
  rcases hoffset with hspaced | ⟨-, hplain⟩
  · exact Or.inl (hcovers " =" (by decide) hspaced)
  · exact Or.inr (hcovers "=" (by decide) hplain)

/-! ### Quoted values -/

/-- A value with double quotes around it. -/
def inQuotes (value : List Char) : List Char :=
  '\x22' :: value ++ ['\x22']

theorem inQuotes_ne_nil (value : List Char) : inQuotes value ≠ [] :=
  List.cons_ne_nil _ _

theorem byteLength_inQuotes (value : List Char) :
    byteLength (inQuotes value) = byteLength value + 2 := by
  have hquote : ('\x22').utf8Size = 1 := rfl
  unfold inQuotes
  rw [List.cons_append, byteLength_cons, byteLength_append, byteLength_cons, byteLength_nil, hquote]
  omega

/-- The span of a value whose opening quote stands behind a text. -/
def spanBehind (before value : List Char) : Span :=
  ⟨byteLength before + 1, byteLength value⟩

theorem coversQuoted_iff {text value : String} {span : Span} :
    CoversQuoted text value span ↔ ∃ before after,
      text.toList = before ++ inQuotes value.toList ++ after ∧
        span = spanBehind before value.toList :=
  covers_iff

theorem not_coversQuoted {text value : String} (h : ¬ inQuotes value.toList <:+: text.toList)
    (span : Span) : ¬ CoversQuoted text value span := by
  rintro hcovers
  obtain ⟨before, after, htext, -⟩ := coversQuoted_iff.1 hcovers
  exact h ⟨before, after, htext.symm⟩

theorem quotedSpans_eq_nil {text value : String} (h : ¬ inQuotes value.toList <:+: text.toList) :
    quotedSpans text value = [] := by
  unfold quotedSpans occurrences
  rw [show '\x22' :: value.toList ++ ['\x22'] = inQuotes value.toList from rfl,
    occurrencesFrom_eq_nil h, List.map_nil]

/-- The first span is that of the leftmost occurrence, and the others are behind it. -/
theorem IsLeftmost.quotedSpans_eq {text value : String} {before after : List Char}
    (h : IsLeftmost (inQuotes value.toList) text.toList before after) :
    quotedSpans text value = spanBehind before value.toList ::
      (occurrencesFrom (inQuotes value.toList) (byteLength (before ++ inQuotes value.toList)) 0
        after).map (fun offset => ⟨offset + 1, byteLength value.toList⟩) := by
  unfold quotedSpans occurrences
  rw [show '\x22' :: value.toList ++ ['\x22'] = inQuotes value.toList from rfl,
    h.occurrencesFrom_eq (inQuotes_ne_nil _), List.map_cons, Nat.zero_add, Nat.zero_add]
  rfl

end Stencil.Text
