import Stencil.Proofs.Java.ScanSteps
import Stencil.Proofs.Text.Respacing

/-!
# Outlines regardless of layout and bodies

Two texts that differ in their white space only are scanned together: what is found in them is the
same but for the white space in packages and parameters, as many braces are open, and what is
pending is respaced (`Scan.Respaced`). A character keeps it so (`Scan.Respaced.next`), and so do
respaced texts (`Scan.Respaced.foldlM`). The body of a method is only counted, so a body whose
braces are balanced may as well be empty (`foldlM_emptied`).
-/

namespace Stencil.Java

/-! ### Declarations -/

/-- Members that are the same but for the white space in their parameters. -/
structure MemberOutline.Respaced (m m' : MemberOutline) : Prop where
  modifiers : m.modifiers = m'.modifiers
  type : m.type = m'.type
  name : m.name = m'.name
  params : Option.Rel (fun p q => Text.Respaced p.toList q.toList) m.params m'.params

/-- **Outlines that are the same but for white space** in the package and in parameters. -/
structure Outline.Respaced (o o' : Outline) : Prop where
  package : Option.Rel (fun p q => Text.Respaced p.toList q.toList) o.package o'.package
  className : o.className = o'.className
  classModifiers : o.classModifiers = o'.classModifiers
  fields : List.Forall₂ MemberOutline.Respaced o.fields o'.fields
  methods : List.Forall₂ MemberOutline.Respaced o.methods o'.methods

theorem respaced_ofList {u v : List Char} (h : Text.Respaced u v) :
    Text.Respaced (String.ofList u).toList (String.ofList v).toList := by
  rwa [String.toList_ofList, String.toList_ofList]

section

variable {text text' : List Char} (h : Text.Respaced text text')

include h

theorem readMember_respaced {params params' : Option String}
    (hparams : Option.Rel (fun p q => Text.Respaced p.toList q.toList) params params') :
    Together MemberOutline.Respaced (readMember text params) (readMember text' params') := by
  unfold readMember
  rw [h.words_eq]
  split
  · exact .ok ⟨rfl, rfl, rfl, hparams⟩
  · exact .error _ _

theorem readMethod_respaced :
    Together MemberOutline.Respaced (readMethod text) (readMethod text') := by
  have hopen := h.dropWhile_ne (c := '(') (by decide)
  unfold readMethod
  cases hdrop : text.dropWhile (· ≠ '(') with
  | nil =>
    rw [hdrop] at hopen
    rw [hopen.eq_nil]
    exact .error _ _
  | cons c params =>
    -- the first of the parentheses stands in both
    obtain rfl : c = '(' := by
      have hnot := List.head?_dropWhile_not (· ≠ '(') text
      rw [hdrop] at hnot
      simpa using hnot
    rw [hdrop] at hopen
    obtain ⟨params', hdrop', hparams⟩ := hopen.exists_cons (by decide)
    rw [hdrop']
    dsimp only
    split
    · next hclose =>
      obtain ⟨hclose', hinner⟩ := hparams.getLast?_eq_some (by decide) hclose
      rw [if_pos hclose']
      exact readMember_respaced (h.takeWhile_ne (by decide)) (.some (respaced_ofList hinner.trim))
    · next hclose =>
      rw [if_neg fun hclose' => hclose (hparams.symm.getLast?_eq_some (by decide) hclose').1]
      exact .error _ _

end

namespace Outline

section

variable {o o' : Outline} (ho : o.Respaced o') {text text' : List Char}
  (h : Text.Respaced text text')

include ho h

theorem readClassHeader_respaced :
    Together Respaced (o.readClassHeader text) (o'.readClassHeader text') := by
  unfold readClassHeader
  rw [h.words_eq]
  dsimp only
  split
  · exact .ok { ho with className := rfl, classModifiers := by rw [ho.classModifiers] }
  · exact .error _ _

theorem readStatement_respaced :
    Together Respaced (o.readStatement text) (o'.readStatement text') := by
  have hsolid : Text.Solid "package".toList := by decide
  -- the word has no white space, so a text begins with it if and only if the other does
  have hfront : ∀ {s s' : List Char}, Text.Respaced s s' → "package".toList.isPrefixOf s = true →
      ∃ rest rest', s = "package".toList ++ rest ∧ s' = "package".toList ++ rest' ∧
        Text.Respaced rest rest' := by
    intro s s' hs hprefix
    obtain ⟨rest, rfl⟩ := List.isPrefixOf_iff_prefix.1 hprefix
    obtain ⟨rest', rfl, hrest⟩ := hs.of_append hsolid
    exact ⟨rest, rest', rfl, rfl, hrest⟩
  unfold readStatement
  dsimp only
  split
  · next hprefix =>
    obtain ⟨rest, rest', rfl, rfl, hrest⟩ := hfront h hprefix
    rw [if_pos (List.isPrefixOf_iff_prefix.2 (List.prefix_append _ _)), List.drop_left,
      List.drop_left]
    exact .ok { ho with package := .some (respaced_ofList hrest.trim) }
  · next hprefix =>
    rw [if_neg ?_]
    · exact .error _ _
    · intro hprefix'
      obtain ⟨rest', rest, rfl, rfl, -⟩ := hfront h.symm hprefix'
      exact hprefix (List.isPrefixOf_iff_prefix.2 (List.prefix_append _ _))

theorem readField_respaced : Together Respaced (o.readField text) (o'.readField text') := by
  unfold readField
  refine (readMember_respaced h .none).bind fun f f' hf => ?_
  exact .ok { ho with fields := List.rel_append ho.fields (.cons hf .nil) }

theorem addMethod_respaced : Together Respaced (o.addMethod text) (o'.addMethod text') := by
  unfold addMethod
  refine (readMethod_respaced h).bind fun m m' hm => ?_
  exact .ok { ho with methods := List.rel_append ho.methods (.cons hm .nil) }

end

/-! ### Scanning -/

/-- **Scans that are the same but for white space.** -/
structure Scan.Respaced (s t : Scan) : Prop where
  found : s.found.Respaced t.found
  depth : s.depth = t.depth
  pending : Text.Respaced s.pending.reverse t.pending.reverse

variable {s t : Scan}

theorem Scan.Respaced.next (h : s.Respaced t) {c : Char} (hc : Text.isSpace c = false) :
    Together Scan.Respaced (s.next c) (t.next c) := by
  obtain ⟨o, d, p⟩ := s
  obtain ⟨o', d', p'⟩ := t
  obtain ⟨hfound, hdepth, hpending⟩ := h
  dsimp only at hfound hdepth hpending
  subst hdepth
  -- what ends a declaration leaves nothing pending
  have hdone : ∀ depth, ∀ q q' : Outline, q.Respaced q' →
      Together Scan.Respaced (.ok ⟨q, depth, []⟩ : Except OutlineError Scan) (.ok ⟨q', depth, []⟩) :=
    fun _ _ _ hq => .ok ⟨hq, rfl, .nil⟩
  by_cases hopen : c = '\x7b'
  · subst hopen
    match d with
    | 0 => exact (readClassHeader_respaced hfound hpending.trim).bind (hdone 1)
    | 1 => exact (addMethod_respaced hfound hpending.trim).bind (hdone 2)
    | d + 2 => exact hdone (d + 3) _ _ hfound
  by_cases hclose : c = '\x7d'
  · subst hclose
    match d with
    | 0 => exact .error _ _
    | d + 1 => exact hdone d _ _ hfound
  by_cases hsemi : c = ';'
  · subst hsemi
    match d with
    | 0 => exact (readStatement_respaced hfound hpending.trim).bind (hdone 0)
    | 1 => exact (readField_respaced hfound hpending.trim).bind (hdone 1)
    | d + 2 => exact hdone (d + 2) _ _ hfound
  unfold Scan.next
  rw [if_neg hopen, if_neg hclose, if_neg hsemi, if_neg hopen, if_neg hclose, if_neg hsemi]
  dsimp only
  split
  · -- at these depths the character is remembered behind what is pending, and else skipped
    refine .ok ⟨hfound, rfl, ?_⟩
    dsimp only
    rw [List.reverse_cons, List.reverse_cons]
    exact hpending.append (.cons hc .nil)
  · exact .ok ⟨hfound, rfl, hpending⟩

/-- White space waits for a declaration, or is skipped in a body. -/
theorem foldlM_spaces {ws : List Char} (hws : Text.Spaces ws) (o : Outline) (depth : Nat)
    (pending : List Char) :
    ws.foldlM Scan.next ⟨o, depth, pending⟩ =
      .ok ⟨o, depth, if depth ≤ 1 then ws.reverse ++ pending else pending⟩ := by
  split
  · next hd => exact foldlM_quiet (isQuiet_of_spaces hws) o hd pending
  · -- in a body white space is skipped like anything else that is no brace
    next hd =>
    obtain ⟨d, rfl⟩ : ∃ d, depth = d + 2 := ⟨depth - 2, by omega⟩
    induction ws with
    | nil => rfl
    | cons c ws ih =>
      have hc : c ∉ ['\x7b', '\x7d', ';'] := fun hmem =>
        isQuiet_of_spaces hws c List.mem_cons_self (List.mem_cons_of_mem _ hmem)
      rw [List.foldlM_cons, (Scan.Step.skip hc).next]
      exact ih fun x hx => hws x (List.mem_cons_of_mem _ hx)

/-- **Respaced texts are scanned together.** -/
theorem Scan.Respaced.foldlM (h : s.Respaced t) {u v : List Char} (huv : Text.Respaced u v) :
    Together Scan.Respaced (u.foldlM Scan.next s) (v.foldlM Scan.next t) := by
  induction huv generalizing s t with
  | nil => exact .ok h
  | cons hc _ ih =>
    rw [List.foldlM_cons, List.foldlM_cons]
    exact (h.next hc).bind fun _ _ hnext => ih hnext
  | @spaces ws ws' u v hws hws' hne hne' _ ih =>
    obtain ⟨o, d, p⟩ := s
    obtain ⟨o', d', p'⟩ := t
    obtain ⟨hfound, hdepth, hpending⟩ := h
    dsimp only at hfound hdepth hpending
    subst hdepth
    rw [List.foldlM_append, List.foldlM_append, foldlM_spaces hws, foldlM_spaces hws']
    -- white space is remembered as white space, or in neither text
    refine ih ⟨hfound, rfl, ?_⟩
    dsimp only
    split
    · rw [List.reverse_append, List.reverse_append, List.reverse_reverse, List.reverse_reverse]
      exact hpending.append (.of_spaces hws hws' hne hne')
    · exact hpending

theorem Scan.Respaced.finish (h : s.Respaced t) :
    Together Outline.Respaced s.finish t.finish := by
  unfold Scan.finish
  rw [h.depth, h.found.className]
  split
  · exact .error _ _
  split
  · exact .error _ _
  · exact .ok h.found

theorem read_respaced {source other : String} (hslash : '/' ∉ source.toList)
    (h : Text.Respaced source.toList other.toList) :
    Together Outline.Respaced (read source) (read other) := by
  have hslash' : '/' ∉ other.toList := fun hmem => hslash (h.mem_of_mem (by decide) hmem)
  have hstart : Scan.Respaced {} {} := ⟨⟨.none, rfl, rfl, .nil, .nil⟩, rfl, .nil⟩
  unfold read
  rw [stripComments_of_not_mem hslash, stripComments_of_not_mem hslash']
  exact (hstart.foldlM h).bind fun _ _ hend => hend.finish

/-! ### Bodies -/

/-- **A scan that goes through has as many braces open as are counted.** -/
theorem braceDepth?_of_foldlM {u : List Char} (h : u.foldlM Scan.next s = .ok t) :
    braceDepth? s.depth u = some t.depth := by
  induction u generalizing s with
  | nil =>
    cases h
    rfl
  | cons c u ih =>
    obtain ⟨s', hstep, hrest⟩ := foldlM_cons_ok h
    -- a step changes the depth as counting braces does
    have hc : braceStep? s.depth c = some s'.depth := by
      cases hstep with
      | wait hc _ | skip hc =>
        simp only [List.mem_cons, List.not_mem_nil, or_false, not_or] at hc
        unfold braceStep?
        rw [if_neg hc.1, if_neg hc.2.1]
      | _ => rfl
    unfold braceDepth?
    rw [List.foldlM_cons, hc]
    exact ih hrest

/-- **A balanced body may as well be empty**: a scan goes on behind it as if nothing stood there. -/
theorem foldlM_emptied {before body : List Char} (hbefore : braceDepth? 0 before = some 1)
    (hbody : braceDepth? 0 body = some 0) (after : List Char) :
    (before ++ '\x7b' :: (body ++ '\x7d' :: after)).foldlM Scan.next {} =
      (before ++ '\x7b' :: '\x7d' :: after).foldlM Scan.next {} := by
  rw [List.foldlM_append, List.foldlM_append]
  cases hscan : before.foldlM Scan.next {} with
  | error e => rfl
  | ok s =>
    -- the brace behind the text before opens the body of a method
    obtain ⟨o, d, p⟩ := s
    obtain rfl : d = 1 := by
      have hcount := braceDepth?_of_foldlM hscan
      exact Option.some.inj (hcount.symm.trans hbefore)
    change (Scan.next ⟨o, 1, p⟩ '\x7b' >>= _) = (Scan.next ⟨o, 1, p⟩ '\x7b' >>= _)
    rw [Scan.next_open]
    cases o.addMethod (Scan.pendingText ⟨o, 1, p⟩) with
    | error e => rfl
    | ok o' =>
      change (body ++ '\x7d' :: after).foldlM Scan.next ⟨o', 2, []⟩ = _
      rw [List.foldlM_append, foldlM_body o' hbody]
      rfl

/-! ### Layout and bodies -/

/-- **An outline does not tell of layout, nor of bodies.** Texts without slashes that differ in
their white space have the same outline but for white space, or neither has one; and where one brace
is open, a block whose braces are balanced may as well be empty. -/
theorem read_regardless :
    (∀ source other : String, '/' ∉ source.toList →
      Text.Respaced source.toList other.toList → Together Respaced (read source) (read other)) ∧
    ∀ before body after : String, '/' ∉ before.toList → '/' ∉ body.toList → '/' ∉ after.toList →
      braceDepth? 0 before.toList = some 1 → braceDepth? 0 body.toList = some 0 →
      read (before ++ "\x7b" ++ body ++ "\x7d" ++ after) = read (before ++ "\x7b\x7d" ++ after) := by
  refine ⟨fun _ _ hslash h => read_respaced hslash h, ?_⟩
  intro before body after hbefore hbody hafter hopen hbalanced
  have hfull : (before ++ "\x7b" ++ body ++ "\x7d" ++ after).toList =
      before.toList ++ '\x7b' :: (body.toList ++ '\x7d' :: after.toList) := by
    simp only [String.toList_append, List.append_assoc]
    rfl
  have hempty : (before ++ "\x7b\x7d" ++ after).toList =
      before.toList ++ '\x7b' :: '\x7d' :: after.toList := by
    simp only [String.toList_append, List.append_assoc]
    rfl
  unfold read
  rw [hfull, hempty, stripComments_of_not_mem (by simp [hbefore, hbody, hafter]),
    stripComments_of_not_mem (by simp [hbefore, hafter]), foldlM_emptied hopen hbalanced]

/-- A class with a line feed in place of a blank, and one with a block in the body of its method. -/
theorem read_regardless_class :
    Together Respaced (read "class A \x7b int f( int n )\x7b\x7d \x7d")
        (read "class A \x7b int f( int\n\tn )\x7b\x7d \x7d") ∧
      read ("class A \x7b int f()" ++ "\x7b" ++ "if \x7b;\x7d" ++ "\x7d" ++ "\x7d") =
        read ("class A \x7b int f()" ++ "\x7b\x7d" ++ "\x7d") := by
  refine ⟨read_regardless.1 _ _ (by decide) ?_,
    read_regardless.2 _ _ _ (by decide) (by decide) (by decide) (by decide) (by decide)⟩
  exact @Text.Respaced.replace [' '] ['\n', '\t'] (by decide) (by decide) (by decide) (by decide)
    "class A \x7b int f( int".toList "n )\x7b\x7d \x7d".toList

end Outline

end Stencil.Java
