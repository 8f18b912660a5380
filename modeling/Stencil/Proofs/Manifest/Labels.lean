import Stencil.Proofs.Manifest.Validation
import Stencil.Proofs.Text.Spans

/-!
# Where labels point

Every label of a rejected manifest covers what its problem speaks of, and is left out only if the
document has no such place (`Problem.Points`). A repeated name has two labels whether or not the
document has two places for it; what they are then is told by `MarksRepeat`. `validate_labels` puts
the two together.
-/

namespace Stencil

/-! ### Repeated names -/

open Text (Span CoversKey CoversQuoted inQuotes spanBehind IsLeftmost quotedSpans)

/-- One span comes behind another so that not even their quotes overlap. -/
def IsBehind (first other : Span) : Prop :=
  first.offset + first.length + 2 ≤ other.offset

/-- **The two places of a repeated name.** They are the beginning of the text if the name does not
stand between quotes there. Else the first one is its leftmost place, and the other one is behind
it, if there is any place behind it. -/
structure MarksRepeat (text name : String) (first again : Span) : Prop where
  nowhere_iff : first = ⟨0, 0⟩ ∧ again = ⟨0, 0⟩ ↔ ¬ ∃ span, CoversQuoted text name span
  first_covers : (∃ span, CoversQuoted text name span) → CoversQuoted text name first
  first_le : ∀ span, CoversQuoted text name span → first.offset ≤ span.offset
  again_eq_iff : again = first ↔ ¬ ∃ span, CoversQuoted text name span ∧ IsBehind first span
  again_covers : again ≠ first → CoversQuoted text name again ∧ IsBehind first again

section

variable {text name : String} {before after : List Char}

theorem byteLength_append_inQuotes (u value : List Char) :
    Text.byteLength (u ++ inQuotes value) = Text.byteLength u + (Text.byteLength value + 2) := by
  rw [Text.byteLength_append, Text.byteLength_inQuotes]

/-- What occurs in the rest of the text behind an occurrence is a place behind it. -/
theorem isBehind_of_split {mid rest : List Char}
    (htext : text.toList =
      before ++ inQuotes name.toList ++ (mid ++ inQuotes name.toList ++ rest)) :
    CoversQuoted text name (spanBehind (before ++ inQuotes name.toList ++ mid) name.toList) ∧
      IsBehind (spanBehind before name.toList)
        (spanBehind (before ++ inQuotes name.toList ++ mid) name.toList) := by
  refine ⟨Text.coversQuoted_iff.2 ⟨_, rest, ?_, rfl⟩, ?_⟩
  · -- the later occurrence covers the name, since the text is so split
    rw [htext]
    simp only [List.append_assoc]
  · -- and it begins behind the end of the first one
    unfold IsBehind spanBehind
    rw [Text.byteLength_append _ mid, byteLength_append_inQuotes]
    dsimp only
    omega

/-- And there are no other places behind it. -/
theorem exists_behind_iff (htext : text.toList = before ++ inQuotes name.toList ++ after) :
    (∃ span, CoversQuoted text name span ∧ IsBehind (spanBehind before name.toList) span) ↔
      inQuotes name.toList <:+: after := by
  constructor
  · rintro ⟨span, hcovers, hbehind⟩
    obtain ⟨before', after', htext', rfl⟩ := Text.coversQuoted_iff.1 hcovers
    rw [htext, List.append_assoc before'] at htext'
    -- a place behind the first occurrence is one in what follows it
    have hle : Text.byteLength (before ++ inQuotes name.toList) ≤ Text.byteLength before' := by
      rw [byteLength_append_inQuotes]
      unfold IsBehind spanBehind at hbehind
      dsimp only at hbehind
      omega
    obtain ⟨mid, rfl⟩ := Text.prefix_of_byteLength_le htext' hle
    rw [List.append_assoc _ mid, List.append_cancel_left_eq] at htext'
    exact ⟨mid, after', by rw [htext', List.append_assoc]⟩
  · rintro ⟨mid, rest, rfl⟩
    exact ⟨_, isBehind_of_split htext⟩

/-- The leftmost occurrence is at the first place. -/
theorem le_of_isLeftmost (h : IsLeftmost (inQuotes name.toList) text.toList before after)
    {span : Span} (hcovers : CoversQuoted text name span) :
    (spanBehind before name.toList).offset ≤ span.offset := by
  obtain ⟨before', after', htext, rfl⟩ := Text.coversQuoted_iff.1 hcovers
  have hsplit := h.split.symm.trans htext
  rw [List.append_assoc, List.append_assoc] at hsplit
  exact Nat.add_le_add_right (Text.byteLength_mono hsplit (h.le_length htext)) 1

/-- A name that stands somewhere has its leftmost place first. So only what comes behind that is
left to tell. -/
theorem marksRepeat_of_isLeftmost {again : Span}
    (h : IsLeftmost (inQuotes name.toList) text.toList before after)
    (hagain : again = spanBehind before name.toList ↔
      ¬ ∃ span, CoversQuoted text name span ∧ IsBehind (spanBehind before name.toList) span)
    (hcovers : again ≠ spanBehind before name.toList →
      CoversQuoted text name again ∧ IsBehind (spanBehind before name.toList) again) :
    MarksRepeat text name (spanBehind before name.toList) again := by
  have hfirst : CoversQuoted text name (spanBehind before name.toList) :=
    Text.coversQuoted_iff.2 ⟨before, after, h.split, rfl⟩
  refine ⟨iff_of_false ?_ (not_not_intro ⟨_, hfirst⟩), fun _ => hfirst,
    fun _ => le_of_isLeftmost h, hagain, hcovers⟩
  -- an occurrence has its opening quote before it
  rintro ⟨hzero, -⟩
  exact Nat.succ_ne_zero _ (congrArg Span.offset hzero)

end

/-- **The places that are told of a repeated name** are those that it has. -/
theorem marksRepeat_quotedSpans (text name : String) :
    MarksRepeat text name ((quotedSpans text name).head?.getD ⟨0, 0⟩)
      ((quotedSpans text name)[1]?.getD ((quotedSpans text name).head?.getD ⟨0, 0⟩)) := by
  by_cases hinfix : inQuotes name.toList <:+: text.toList
  · -- there is an occurrence: the finder begins with the leftmost one
    obtain ⟨before, after, hleftmost⟩ := Text.exists_isLeftmost hinfix
    rw [hleftmost.quotedSpans_eq, List.head?_cons, Option.getD_some, List.getElem?_cons_succ]
    by_cases hafter : inQuotes name.toList <:+: after
    · -- and another one behind it, which is told as the second
      obtain ⟨mid, rest, hnext⟩ := Text.exists_isLeftmost hafter
      have hsplit := hleftmost.split
      rw [hnext.split] at hsplit
      obtain ⟨hagain, hbehind⟩ := isBehind_of_split hsplit
      -- the second one is further on, so it is not the first one again
      have hne : spanBehind (before ++ inQuotes name.toList ++ mid) name.toList ≠
          spanBehind before name.toList := by
        intro heq
        unfold IsBehind at hbehind
        rw [heq] at hbehind
        omega
      rw [hnext.occurrencesFrom_eq (Text.inQuotes_ne_nil _), List.map_cons, List.getElem?_cons_zero,
        Option.getD_some, ← Text.byteLength_append]
      exact marksRepeat_of_isLeftmost hleftmost
        (iff_of_false hne (not_not_intro ⟨_, hagain, hbehind⟩)) fun _ => ⟨hagain, hbehind⟩
    · -- and none behind it, so the first one is told twice
      rw [Text.occurrencesFrom_eq_nil hafter, List.map_nil, List.getElem?_nil, Option.getD_none]
      have hnone := mt (exists_behind_iff hleftmost.split).1 hafter
      exact marksRepeat_of_isLeftmost hleftmost (iff_of_true rfl hnone) fun hne => absurd rfl hne
  · -- there is none, and nothing is covered
    have hnone : ¬ ∃ span, CoversQuoted text name span := by
      rintro ⟨span, hcovers⟩
      exact Text.not_coversQuoted hinfix span hcovers
    rw [Text.quotedSpans_eq_nil hinfix]
    exact {
      nowhere_iff := iff_of_true ⟨rfl, rfl⟩ hnone
      first_covers := fun hsome => absurd hsome hnone
      first_le := fun span hcovers => absurd ⟨span, hcovers⟩ hnone
      again_eq_iff := iff_of_true rfl fun ⟨span, hcovers, _⟩ => hnone ⟨span, hcovers⟩
      again_covers := fun hne => absurd rfl hne }

/-! ### Labels -/

/-- Labels for a place of some kind: there is one, unless there is no such place. -/
inductive PointsAt (IsPlace : Span → Prop) : List Label → Prop
  | nowhere (h : ∀ span, ¬ IsPlace span) : PointsAt IsPlace []
  | place {span : Span} (h : IsPlace span) : PointsAt IsPlace [⟨none, span⟩]

/-- **What the labels of a problem point at** in a text. -/
def Problem.Points (text : String) : Problem → List Label → Prop
  | .emptyMarker, labels => PointsAt (CoversKey text "marker") labels
  | .spacedMarker marker, labels => PointsAt (CoversQuoted text marker) labels
  | .emptyClassName, labels => PointsAt (CoversKey text "class_name") labels
  | .duplicate kind name, labels => ∃ first again, MarksRepeat text name first again ∧
      labels = [⟨some s!"first {kind.text}", first⟩, ⟨some "same name again", again⟩]

theorem pointsAt_key (text key : String) :
    PointsAt (CoversKey text key) ((Text.keySpan? text key).map (⟨none, ·⟩)).toList := by
  cases h : Text.keySpan? text key with
  | none => exact .nowhere (Text.keySpan?_eq_none h)
  | some span => exact .place (Text.coversKey_of_keySpan? h)

theorem pointsAt_quoted (text value : String) :
    PointsAt (CoversQuoted text value)
      ((quotedSpans text value).head?.map (⟨none, ·⟩)).toList := by
  by_cases hinfix : inQuotes value.toList <:+: text.toList
  · obtain ⟨before, after, hleftmost⟩ := Text.exists_isLeftmost hinfix
    rw [hleftmost.quotedSpans_eq]
    exact .place (Text.coversQuoted_iff.2 ⟨before, after, hleftmost.split, rfl⟩)
  · rw [Text.quotedSpans_eq_nil hinfix]
    exact .nowhere (Text.not_coversQuoted hinfix)

theorem Problem.points_labels (text : String) (problem : Problem) :
    problem.Points text (problem.labels text) := by
  cases problem with
  | emptyMarker => exact pointsAt_key text "marker"
  | spacedMarker marker => exact pointsAt_quoted text marker
  | emptyClassName => exact pointsAt_key text "class_name"
  | duplicate kind name => exact ⟨_, _, marksRepeat_quotedSpans text name, rfl⟩

/-- **Labels are sound.** Whatever a manifest is rejected for, the labels point at what the problem
speaks of, in any document. -/
theorem Manifest.validate_labels {m : Manifest} {text : String} {e : ConfigError}
    (h : m.validate text = .error e) :
    ∃ problem labels, m.RejectedFor problem ∧ e = .rejected problem labels ∧
      problem.Points text labels := by
  obtain ⟨problem, hproblem, rfl⟩ := Manifest.validate_eq_error_iff.1 h
  exact ⟨problem, problem.labels text, Manifest.problem?_eq_some_iff.1 hproblem, rfl,
    problem.points_labels text⟩

/-- A manifest whose class has two fields of one name. -/
def twinFields : Manifest :=
  ⟨⟨"m", .structured⟩, { className := "A", fields := [⟨"é", "int", []⟩, ⟨"é", "long", []⟩] }⟩

/-- Two of the three places share a quote, so the last one is told as the second. -/
theorem validate_labels_overlapping :
    twinFields.validate "\x22é\x22é\x22 \x22é\x22" =
        .error (.rejected (.duplicate .field "é")
          [⟨some "first field", ⟨1, 2⟩⟩, ⟨some "same name again", ⟨9, 2⟩⟩]) ∧
      MarksRepeat "\x22é\x22é\x22 \x22é\x22" "é" ⟨1, 2⟩ ⟨9, 2⟩ := by
  have hrejected : twinFields.validate "\x22é\x22é\x22 \x22é\x22" =
      .error (.rejected (.duplicate .field "é")
        [⟨some "first field", ⟨1, 2⟩⟩, ⟨some "same name again", ⟨9, 2⟩⟩]) :=
    Manifest.validate_eq_error_iff.2 ⟨.duplicate .field "é", by decide +kernel, by decide +kernel⟩
  refine ⟨hrejected, ?_⟩
  -- the labels that were computed are the ones of which the general statement tells
  obtain ⟨problem, labels, -, heq, hpoints⟩ := Manifest.validate_labels hrejected
  obtain ⟨rfl, rfl⟩ := ConfigError.rejected.inj heq
  obtain ⟨first, again, hmarks, hlabels⟩ := hpoints
  obtain ⟨hfirst, hrest⟩ := List.cons.inj hlabels
  obtain ⟨hagain, -⟩ := List.cons.inj hrest
  obtain ⟨-, rfl⟩ := Label.mk.inj hfirst
  obtain ⟨-, rfl⟩ := Label.mk.inj hagain
  exact hmarks

end Stencil
