import Stencil.Proofs.Text.Words

/-!
# Texts that differ in their white space

Two texts are respaced if white space stands at the same places in both, how much and which ever it
is (`Respaced`). Everything that is read off a text up to its white space is then read off both:
their words (`Respaced.words_eq`), and what is found before and behind a character that is no white
space (`Respaced.takeWhile_ne`, `Respaced.dropWhile_ne`). What is trimmed or cut from the two is
respaced again (`Respaced.trim`, `Respaced.of_append`, `Respaced.getLast?_eq_some`).
-/

namespace Stencil.Text

/-- **Texts that differ in nothing but their white space**: where there is some in one of them, there
is some in the other, too. -/
inductive Respaced : List Char → List Char → Prop
  | nil : Respaced [] []
  | cons {c : Char} {u v : List Char} (hc : isSpace c = false) (h : Respaced u v) :
      Respaced (c :: u) (c :: v)
  | spaces {ws ws' u v : List Char} (hws : Spaces ws) (hws' : Spaces ws') (hne : ws ≠ [])
      (hne' : ws' ≠ []) (h : Respaced u v) : Respaced (ws ++ u) (ws' ++ v)

namespace Respaced

variable {u v u' v' : List Char}

theorem refl (u : List Char) : Respaced u u := by
  induction u with
  | nil => exact nil
  | cons c u ih =>
    cases hc : isSpace c with
    | true =>
      have hspace : Spaces [c] := Spaces.cons hc Spaces.nil
      exact spaces hspace hspace (List.cons_ne_nil _ _) (List.cons_ne_nil _ _) ih
    | false => exact cons hc ih

theorem symm (h : Respaced u v) : Respaced v u := by
  induction h with
  | nil => exact nil
  | cons hc _ ih => exact cons hc ih
  | spaces hws hws' hne hne' _ ih => exact spaces hws' hws hne' hne ih

theorem append (h : Respaced u v) (h' : Respaced u' v') : Respaced (u ++ u') (v ++ v') := by
  induction h with
  | nil => exact h'
  | cons hc _ ih => exact cons hc ih
  | spaces hws hws' hne hne' _ ih =>
    rw [List.append_assoc, List.append_assoc]
    exact spaces hws hws' hne hne' ih

theorem of_spaces {ws ws' : List Char} (hws : Spaces ws) (hws' : Spaces ws') (hne : ws ≠ [])
    (hne' : ws' ≠ []) : Respaced ws ws' := by
  have h := spaces hws hws' hne hne' nil
  rwa [List.append_nil, List.append_nil] at h

/-- **White space may be put in the place of other white space.** -/
theorem replace {ws ws' : List Char} (hws : Spaces ws) (hws' : Spaces ws') (hne : ws ≠ [])
    (hne' : ws' ≠ []) (before behind : List Char) :
    Respaced (before ++ ws ++ behind) (before ++ ws' ++ behind) :=
  ((refl before).append (of_spaces hws hws' hne hne')).append (refl behind)

theorem reverse (h : Respaced u v) : Respaced u.reverse v.reverse := by
  induction h with
  | nil => exact nil
  | cons hc _ ih =>
    rw [List.reverse_cons, List.reverse_cons]
    -- each part goes behind what the rest has become
    exact ih.append (cons hc nil)
  | spaces hws hws' hne hne' _ ih =>
    rw [List.reverse_append, List.reverse_append]
    exact ih.append (of_spaces hws.reverse hws'.reverse (List.reverse_ne_nil_iff.2 hne)
      (List.reverse_ne_nil_iff.2 hne'))

/-! ### What stands at the same place -/

theorem eq_nil (h : Respaced [] v) : v = [] := by
  generalize hu : [] = u at h
  cases h with
  | nil => rfl
  | cons _ _ => contradiction
  | spaces _ _ hne _ _ => exact absurd (List.append_eq_nil_iff.1 hu.symm).1 hne

/-- A character that is no white space stands at the front of both texts. -/
theorem exists_cons {c : Char} (hc : isSpace c = false) (h : Respaced (c :: u) v) :
    ∃ rest, v = c :: rest ∧ Respaced u rest := by
  -- the text is not a variable, so it is named before the cases of the relation are told apart
  generalize hs : c :: u = s at h
  cases h with
  | nil => contradiction
  | cons _ h =>
    obtain ⟨rfl, rfl⟩ := List.cons.inj hs
    exact ⟨_, rfl, h⟩
  | @spaces ws _ _ _ hws _ hne _ _ =>
    -- the first of the spaces would be this character
    obtain ⟨d, ws, rfl⟩ := List.exists_cons_of_ne_nil hne
    obtain rfl : c = d := (List.cons.inj hs).1
    rw [hws c List.mem_cons_self] at hc
    contradiction

/-- So does a text that has no white space. -/
theorem of_append {w : List Char} (hw : Solid w) (h : Respaced (w ++ u) v) :
    ∃ rest, v = w ++ rest ∧ Respaced u rest := by
  induction w generalizing v with
  | nil => exact ⟨v, rfl, h⟩
  | cons c w ih =>
    obtain ⟨v, rfl, hv⟩ := h.exists_cons (hw c List.mem_cons_self)
    obtain ⟨rest, rfl, hrest⟩ := ih (fun d hd => hw d (List.mem_cons_of_mem _ hd)) hv
    exact ⟨rest, rfl, hrest⟩

theorem mem_of_mem {c : Char} (hc : isSpace c = false) (h : Respaced u v) (hmem : c ∈ v) :
    c ∈ u := by
  induction h with
  | nil => exact hmem
  | cons _ _ ih => exact List.mem_cons.2 ((List.mem_cons.1 hmem).imp_right ih)
  | spaces _ hws' _ _ _ ih =>
    -- white space is never `c`, so it is in what follows
    rcases List.mem_append.1 hmem with hmem | hmem
    · rw [hws' c hmem] at hc
      contradiction
    · exact List.mem_append_right _ (ih hmem)

/-- The last characters are the same if one of them is no white space. -/
theorem exists_concat {c : Char} (hc : isSpace c = false) (h : Respaced (u ++ [c]) v) :
    ∃ rest, v = rest ++ [c] ∧ Respaced u rest := by
  have hback := h.reverse
  rw [List.reverse_append, List.reverse_singleton, List.singleton_append] at hback
  obtain ⟨rest, hv, hrest⟩ := hback.exists_cons hc
  refine ⟨rest.reverse, ?_, ?_⟩
  · rw [← List.reverse_reverse v, hv, List.reverse_cons]
  · have hforth := hrest.reverse
    rwa [List.reverse_reverse] at hforth

theorem getLast?_eq_some {c : Char} (hc : isSpace c = false) (h : Respaced u v)
    (hlast : u.getLast? = some c) :
    v.getLast? = some c ∧ Respaced u.dropLast v.dropLast := by
  obtain ⟨front, rfl⟩ := List.getLast?_eq_some_iff.1 hlast
  obtain ⟨rest, rfl, hrest⟩ := h.exists_concat hc
  rw [List.getLast?_concat, List.dropLast_concat, List.dropLast_concat]
  exact ⟨rfl, hrest⟩

/-! ### Words and trimming -/

/-- **Respaced texts have the same words.** -/
theorem words_eq (h : Respaced u v) : words u = words v := by
  -- a word may have begun before the two texts
  have hall : ∀ w, Solid w → words (w ++ u) = words (w ++ v) := by
    induction h with
    | nil => exact fun _ _ => rfl
    | @cons c u v hc _ ih =>
      intro w hw
      -- the word goes on with this character
      have hnext : Solid (w ++ [c]) := by
        intro d hd
        rcases List.mem_append.1 hd with hd | hd
        · exact hw d hd
        · rw [List.mem_singleton.1 hd]
          exact hc
      have hwords := ih (w ++ [c]) hnext
      rwa [List.append_assoc, List.append_assoc] at hwords
    | @spaces ws ws' u v hws hws' hne hne' _ ih =>
      intro w _
      -- the white space ends the word that had begun, and another one begins behind it, if any does
      have hbreak : ∀ {ws : List Char}, Spaces ws → ws ≠ [] → ∀ s,
          words (w ++ (ws ++ s)) = words w ++ words s := by
        intro ws hws hne s
        obtain ⟨c, ws, rfl⟩ := List.exists_cons_of_ne_nil hne
        rw [List.cons_append, words_append_space (hws c List.mem_cons_self),
          words_spaces_append fun d hd => hws d (List.mem_cons_of_mem _ hd)]
      have hrest := ih [] fun d hd => absurd hd List.not_mem_nil
      rw [hbreak hws hne, hbreak hws' hne']
      exact congrArg _ hrest
  exact hall [] fun d hd => absurd hd List.not_mem_nil

theorem trimStart (h : Respaced u v) : Respaced (trimStart u) (trimStart v) := by
  unfold Text.trimStart
  induction h with
  | nil => exact nil
  | cons hc h _ =>
    rw [List.dropWhile_cons_of_neg (by simp [hc]), List.dropWhile_cons_of_neg (by simp [hc])]
    exact cons hc h
  | spaces hws hws' _ _ _ ih =>
    rwa [List.dropWhile_append_of_pos hws, List.dropWhile_append_of_pos hws']

theorem trim (h : Respaced u v) : Respaced (trim u) (trim v) :=
  h.trimStart.reverse.trimStart.reverse

/-! ### Before and behind a character -/

section

variable {c : Char} (hc : isSpace c = false)

include hc

theorem ne_of_spaces {ws : List Char} (hws : Spaces ws) : ∀ d ∈ ws, decide (d ≠ c) = true := by
  intro d hd
  refine decide_eq_true ?_
  rintro rfl
  rw [hws d hd] at hc
  contradiction

theorem takeWhile_ne (h : Respaced u v) :
    Respaced (u.takeWhile (· ≠ c)) (v.takeWhile (· ≠ c)) := by
  induction h with
  | nil => exact nil
  | @cons d u v hd _ ih =>
    rw [List.takeWhile_cons, List.takeWhile_cons]
    -- the character is the same in both, so both go on or both stop
    split
    · exact cons hd ih
    · exact nil
  | spaces hws hws' hne hne' _ ih =>
    -- `c` is no white space, so all of it is taken on both sides
    rw [List.takeWhile_append_of_pos (ne_of_spaces hc hws),
      List.takeWhile_append_of_pos (ne_of_spaces hc hws')]
    exact spaces hws hws' hne hne' ih

theorem dropWhile_ne (h : Respaced u v) :
    Respaced (u.dropWhile (· ≠ c)) (v.dropWhile (· ≠ c)) := by
  induction h with
  | nil => exact nil
  | @cons d u v hd hrest ih =>
    -- the character is the same in both, so both drop it or both stop
    rw [List.dropWhile_cons, List.dropWhile_cons]
    split
    · exact ih
    · exact cons hd hrest
  | spaces hws hws' _ _ _ ih =>
    rwa [List.dropWhile_append_of_pos (ne_of_spaces hc hws),
      List.dropWhile_append_of_pos (ne_of_spaces hc hws')]

end

end Respaced

end Stencil.Text
