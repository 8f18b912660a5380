import Stencil.Proofs.Java.Scanning
import Stencil.Proofs.Success

/-!
# Steps of a scan

`Scan.Step` lists what one more character can do to a scan, with one case for each kind of character
at each kind of depth; `Scan.Step.of_next` and `Scan.Step.next` say that this is what `Scan.next`
does. What a whole text does follows by induction over the text:

* `depth_of_foldlM` — braces are counted at every depth;
* `package_of_foldlM` — a package that was found stays found;
* `foldlM_behind` — **a text that declares no package is read alike behind a package declaration**
  and its layout: the scan with them is the scan without them, but for the package and for white
  space before what is pending.
-/

namespace Stencil.Java.Outline

/-! ### What is added to an outline -/

/-- A class header adds the modifiers before the keyword and names the class. -/
theorem readClassHeader_ok {o o' : Outline} {header : List Char}
    (h : o.readClassHeader header = .ok o') :
    ∃ keyword name rest,
      ((Text.words header).map String.ofList).dropWhile (· ≠ "class") = keyword :: name :: rest ∧
      ∀ q : Outline, q.readClassHeader header =
        .ok { q with
          classModifiers :=
            q.classModifiers ++ ((Text.words header).map String.ofList).takeWhile (· ≠ "class")
          className := name } := by
  unfold readClassHeader at h
  dsimp only at h
  split at h
  · next keyword name rest hdrop =>
    -- of the outline before it the reading uses nothing, so it goes the same way in another one
    refine ⟨keyword, name, rest, hdrop, fun q => ?_⟩
    unfold readClassHeader
    dsimp only
    rw [hdrop]
  · contradiction

theorem readStatement_ok {o o' : Outline} {statement : List Char}
    (h : o.readStatement statement = .ok o') : ∃ name, o' = { o with package := some name } := by
  unfold readStatement at h
  dsimp only at h
  split at h
  · exact ⟨_, (Except.ok.inj h).symm⟩
  · contradiction

theorem readField_ok {o o' : Outline} {statement : List Char}
    (h : o.readField statement = .ok o') :
    ∃ f, ∀ q : Outline, q.readField statement = .ok { q with fields := q.fields ++ [f] } := by
  unfold readField at h
  cases hread : readMember statement none with
  | error e => rw [hread] at h; cases h
  | ok f =>
    refine ⟨f, fun q => ?_⟩
    unfold readField
    rw [hread]
    rfl

theorem addMethod_ok {o o' : Outline} {header : List Char} (h : o.addMethod header = .ok o') :
    ∃ m, ∀ q : Outline, q.addMethod header = .ok { q with methods := q.methods ++ [m] } := by
  unfold addMethod at h
  cases hread : readMethod header with
  | error e => rw [hread] at h; cases h
  | ok m =>
    refine ⟨m, fun q => ?_⟩
    unfold addMethod
    rw [hread]
    rfl

/-! ### Steps -/

/-- **What one more character does to a scan.** -/
inductive Scan.Step : Scan → Char → Scan → Prop
  | openClass {o o' : Outline} {p : List Char}
      (h : o.readClassHeader (Text.trim p.reverse) = .ok o') : Step ⟨o, 0, p⟩ '\x7b' ⟨o', 1, []⟩
  | openMethod {o o' : Outline} {p : List Char}
      (h : o.addMethod (Text.trim p.reverse) = .ok o') : Step ⟨o, 1, p⟩ '\x7b' ⟨o', 2, []⟩
  | openBlock {o : Outline} {d : Nat} {p : List Char} :
      Step ⟨o, d + 2, p⟩ '\x7b' ⟨o, d + 3, []⟩
  | close {o : Outline} {d : Nat} {p : List Char} : Step ⟨o, d + 1, p⟩ '\x7d' ⟨o, d, []⟩
  | package {o o' : Outline} {p : List Char}
      (h : o.readStatement (Text.trim p.reverse) = .ok o') : Step ⟨o, 0, p⟩ ';' ⟨o', 0, []⟩
  | field {o o' : Outline} {p : List Char}
      (h : o.readField (Text.trim p.reverse) = .ok o') : Step ⟨o, 1, p⟩ ';' ⟨o', 1, []⟩
  | bodySemicolon {o : Outline} {d : Nat} {p : List Char} : Step ⟨o, d + 2, p⟩ ';' ⟨o, d + 2, []⟩
  | wait {o : Outline} {d : Nat} {p : List Char} {c : Char} (hc : c ∉ ['\x7b', '\x7d', ';'])
      (hd : d ≤ 1) : Step ⟨o, d, p⟩ c ⟨o, d, c :: p⟩
  | skip {o : Outline} {d : Nat} {p : List Char} {c : Char} (hc : c ∉ ['\x7b', '\x7d', ';']) :
      Step ⟨o, d + 2, p⟩ c ⟨o, d + 2, p⟩

/-- A step is what `Scan.next` does. -/
theorem Scan.Step.of_next {s t : Scan} {c : Char} (h : s.next c = .ok t) : Step s c t := by
  obtain ⟨o, d, p⟩ := s
  -- a brace or a semicolon means something else outside of the class, among its members and in a
  -- body; anything else is remembered or skipped
  by_cases hopen : c = '\x7b'
  · subst hopen
    match d with
    | 0 =>
      obtain ⟨o', ho, ht⟩ := bind_ok h
      cases ht
      exact .openClass ho
    | 1 =>
      obtain ⟨o', ho, ht⟩ := bind_ok h
      cases ht
      exact .openMethod ho
    | d + 2 =>
      cases h
      exact .openBlock
  by_cases hclose : c = '\x7d'
  · subst hclose
    match d with
    | 0 => cases h -- there is nothing to close
    | d + 1 =>
      cases h
      exact .close
  by_cases hsemi : c = ';'
  · subst hsemi
    match d with
    | 0 =>
      obtain ⟨o', ho, ht⟩ := bind_ok h
      cases ht
      exact .package ho
    | 1 =>
      obtain ⟨o', ho, ht⟩ := bind_ok h
      cases ht
      exact .field ho
    | d + 2 =>
      cases h
      exact .bodySemicolon
  have hc : c ∉ ['\x7b', '\x7d', ';'] := by
    simp only [List.mem_cons, List.not_mem_nil, or_false, not_or]
    exact ⟨hopen, hclose, hsemi⟩
  unfold Scan.next at h
  rw [if_neg hopen, if_neg hclose, if_neg hsemi] at h
  split at h
  · next hd =>
    cases h
    exact .wait hc hd
  · next hd =>
    -- the depth is that of a body, where nothing is remembered
    obtain ⟨d, rfl⟩ : ∃ d', d = d' + 2 := ⟨d - 2, by dsimp only at hd; omega⟩
    cases h
    exact .skip hc

theorem Scan.Step.next {s t : Scan} {c : Char} (h : Step s c t) : s.next c = .ok t := by
  cases h with
  | openClass h =>
    -- the step says how the header is read, and the scan goes on from there
    rw [Scan.next_open_top]
    unfold Scan.pendingText
    rw [h]
    rfl
  | openMethod h =>
    rw [Scan.next_open]
    unfold Scan.pendingText
    rw [h]
    rfl
  | openBlock => rfl
  | close => rfl
  | package h =>
    rw [Scan.next_semicolon_top]
    unfold Scan.pendingText
    rw [h]
    rfl
  | field h =>
    rw [Scan.next_semicolon]
    unfold Scan.pendingText
    rw [h]
    rfl
  | bodySemicolon => rfl
  | wait hc hd => exact Scan.next_quiet hc _ hd _
  | skip hc =>
    simp only [List.mem_cons, List.not_mem_nil, or_false, not_or] at hc
    unfold Scan.next
    rw [if_neg hc.1, if_neg hc.2.1, if_neg hc.2.2, if_neg (by dsimp only; omega)]

/-! ### Runs -/

/-- A run over a text is a run over its first character and one over the rest. -/
theorem foldlM_cons_ok {s t : Scan} {c : Char} {u : List Char}
    (h : (c :: u).foldlM Scan.next s = .ok t) :
    ∃ s', Scan.Step s c s' ∧ u.foldlM Scan.next s' = .ok t := by
  rw [List.foldlM_cons] at h
  obtain ⟨s', hstep, hrest⟩ := bind_ok h
  exact ⟨s', .of_next hstep, hrest⟩

/-- An opening brace goes one deeper, a closing one comes back. -/
theorem Scan.Step.depth {s t : Scan} {c : Char} (h : Step s c t) :
    t.depth + [c].count '\x7d' = s.depth + [c].count '\x7b' := by
  cases h with
  | wait hc _ | skip hc =>
    simp only [List.mem_cons, List.not_mem_nil, or_false, not_or] at hc
    rw [List.count_singleton, List.count_singleton, if_neg (by simpa using hc.2.1),
      if_neg (by simpa using hc.1)]
  | _ => rfl

/-- **Braces are counted**, those of bodies too. -/
theorem depth_of_foldlM {u : List Char} {s t : Scan} (h : u.foldlM Scan.next s = .ok t) :
    t.depth + u.count '\x7d' = s.depth + u.count '\x7b' := by
  induction u generalizing s with
  | nil =>
    cases h
    rfl
  | cons c u ih =>
    obtain ⟨s', hstep, hrest⟩ := foldlM_cons_ok h
    have hc := hstep.depth
    have hu := ih hrest
    -- both counts are that of the first character and that of the rest
    have hsplit : ∀ b : Char, ([c] ++ u).count b = [c].count b + u.count b := fun _ =>
      List.count_append
    rw [← List.singleton_append]
    rw [hsplit, hsplit]
    omega

/-- A package that was found stays found. -/
theorem Scan.Step.package_eq_none {s t : Scan} {c : Char} (h : Step s c t)
    (hnone : t.found.package = none) : s.found.package = none := by
  cases h with
  | openClass h =>
    -- a header adds modifiers and a name, and leaves the package alone
    obtain ⟨_, _, _, -, hall⟩ := readClassHeader_ok h
    cases h.symm.trans (hall _)
    exact hnone
  | openMethod h =>
    obtain ⟨_, hall⟩ := addMethod_ok h
    cases h.symm.trans (hall _)
    exact hnone
  | package h =>
    -- behind it the package is not `none`
    obtain ⟨_, rfl⟩ := readStatement_ok h
    cases hnone
  | field h =>
    obtain ⟨_, hall⟩ := readField_ok h
    cases h.symm.trans (hall _)
    exact hnone
  | _ => exact hnone

theorem package_of_foldlM {u : List Char} {s t : Scan} (h : u.foldlM Scan.next s = .ok t)
    (hnone : t.found.package = none) : s.found.package = none := by
  induction u generalizing s with
  | nil =>
    cases h
    exact hnone
  | cons c u ih =>
    obtain ⟨s', hstep, hrest⟩ := foldlM_cons_ok h
    exact hstep.package_eq_none (ih hrest)

/-- A scan that ends well has closed all braces. -/
theorem Scan.finish_ok {s : Scan} {o : Outline} (h : s.finish = .ok o) :
    s.depth = 0 ∧ s.found = o := by
  unfold finish at h
  split at h
  · contradiction
  · next hdepth =>
    split at h
    · contradiction
    · exact ⟨Decidable.not_not.1 hdepth, Except.ok.inj h⟩

/-! ### Behind a package declaration -/

/-- A scan behind a package declaration: the package is found, and what is pending may have white
space before it. -/
def Scan.behind (s : Scan) (package : Option String) (ws : List Char) : Scan :=
  ⟨{ s.found with package }, s.depth, s.pending ++ ws⟩

/-- White space before what is pending is not read with it. -/
theorem trim_reverse_append {ws : List Char} (hws : Text.Spaces ws) (p : List Char) :
    Text.trim (p ++ ws).reverse = Text.trim p.reverse := by
  rw [List.reverse_append, Text.trim_space_append hws.reverse]

/-- **A step that declares no package is the same behind a package declaration.** -/
theorem Scan.Step.behind {s t : Scan} {c : Char} (h : Step s c t)
    (hnone : t.found.package = none) (package : Option String) {ws : List Char}
    (hws : Text.Spaces ws) :
    ∃ ws', Text.Spaces ws' ∧ Step (s.behind package ws) c (t.behind package ws') := by
  -- what ends a declaration reads it without the white space before it and drops both
  cases h with
  | openClass h =>
    obtain ⟨_, _, _, -, hall⟩ := readClassHeader_ok h
    cases h.symm.trans (hall _)
    refine ⟨[], Text.Spaces.nil, .openClass ?_⟩
    rw [trim_reverse_append hws]
    exact hall _
  | openMethod h =>
    obtain ⟨_, hall⟩ := addMethod_ok h
    cases h.symm.trans (hall _)
    refine ⟨[], Text.Spaces.nil, .openMethod ?_⟩
    rw [trim_reverse_append hws]
    exact hall _
  | openBlock => exact ⟨[], Text.Spaces.nil, .openBlock⟩
  | close => exact ⟨[], Text.Spaces.nil, .close⟩
  | package h =>
    -- it would have declared a package
    obtain ⟨_, rfl⟩ := readStatement_ok h
    cases hnone
  | field h =>
    obtain ⟨_, hall⟩ := readField_ok h
    cases h.symm.trans (hall _)
    refine ⟨[], Text.Spaces.nil, .field ?_⟩
    rw [trim_reverse_append hws]
    exact hall _
  | bodySemicolon => exact ⟨[], Text.Spaces.nil, .bodySemicolon⟩
  | wait hc hd => exact ⟨ws, hws, .wait hc hd⟩
  | skip hc => exact ⟨ws, hws, .skip hc⟩

/-- **A text that declares no package is read alike behind a package declaration.** -/
theorem foldlM_behind {u : List Char} {s t : Scan} (h : u.foldlM Scan.next s = .ok t)
    (hnone : t.found.package = none) (package : Option String) {ws : List Char}
    (hws : Text.Spaces ws) :
    ∃ ws', Text.Spaces ws' ∧
      u.foldlM Scan.next (s.behind package ws) = .ok (t.behind package ws') := by
  induction u generalizing s ws with
  | nil =>
    cases h
    exact ⟨ws, hws, rfl⟩
  | cons c u ih =>
    -- a package found here would still be found at the end
    obtain ⟨s', hstep, hrest⟩ := foldlM_cons_ok h
    obtain ⟨ws', hws', hbehind⟩ := hstep.behind (package_of_foldlM hrest hnone) package hws
    obtain ⟨ws'', hws'', hrest'⟩ := ih hrest hws'
    refine ⟨ws'', hws'', ?_⟩
    rw [List.foldlM_cons, hbehind.next]
    exact hrest'

end Stencil.Java.Outline
