import Stencil.Proofs.Layout.Rows

/-!
# Steps in a row

A list of steps adds the same rows to every page, whatever the page holds. `LayoutStep.rows` lists
the rows of a step in the order of the text, each at the level at which it is nested, and a run
appends just these (`Page.run_eq`): the text before is kept, and the depth is what it was, however
deep the steps went. A page that begins deeper gets the same rows deeper (`LayoutStep.rows_deeper`).

So steps may be taken apart. Emitting fragments that follow each other is emitting the first ones
and then the others, and a block is its header, its body one level deeper and its closing line
(`Page.run_compositional`).
-/

namespace Stencil

/-! ### Rows on a deeper page -/

/-- A row some levels deeper. An empty row is at no level. -/
def Row.deeper (depth : Nat) : Row → Row
  | .blank => .blank
  | .text level content => .text (depth + level) content

namespace Fragment

theorem docRows_deeper (depth level : Nat) (lines : List String) :
    docRows (depth + level) lines = (docRows level lines).map (.deeper depth) := by
  unfold docRows
  rw [List.map_append, List.map_cons, List.map_map]
  rfl

mutual

/-- The rows of a fragment that begins deeper are deeper by as much. -/
theorem rows_deeper (depth level : Nat) :
    (f : Fragment) → f.rows (depth + level) = (f.rows level).map (.deeper depth)
  | .line _ => rfl
  | .blank => rfl
  | .doc lines => docRows_deeper depth level lines
  | .block header body close => by
    -- the body is one level below its header, so the claim is used one level deeper
    have hbody : rowsAll (depth + level + 1) body =
        (rowsAll (level + 1) body).map (.deeper depth) :=
      rowsAll_deeper depth (level + 1) body
    rw [rows_block, rows_block, hbody, List.map_append, List.map_cons]
    rfl
termination_by structural f => f

theorem rowsAll_deeper (depth level : Nat) :
    (fs : List Fragment) → rowsAll (depth + level) fs = (rowsAll level fs).map (.deeper depth)
  | [] => rfl
  | f :: rest => by
    rw [rowsAll_cons, rowsAll_cons, rows_deeper depth level f, rowsAll_deeper depth level rest,
      List.map_append]
termination_by structural fs => fs

end

end Fragment

/-! ### Rows of steps -/

namespace LayoutStep

mutual

/-- The rows of a step that begins at a level. -/
def rows (level : Nat) : LayoutStep → List Row
  | .blank => [.blank]
  | .line text => [.text level text]
  | .doc lines => Fragment.docRows level lines
  | .emit fragments => Fragment.rowsAll level fragments
  | .indented steps => rowsAll (level + 1) steps
termination_by structural s => s

/-- The rows of steps that follow each other. -/
def rowsAll (level : Nat) : List LayoutStep → List Row
  | [] => []
  | s :: rest => s.rows level ++ rowsAll level rest
termination_by structural ss => ss

end

theorem rowsAll_cons (level : Nat) (s : LayoutStep) (rest : List LayoutStep) :
    rowsAll level (s :: rest) = s.rows level ++ rowsAll level rest := rfl

mutual

/-- The rows of a step that begins deeper are deeper by as much. -/
theorem rows_deeper (depth level : Nat) :
    (s : LayoutStep) → s.rows (depth + level) = (s.rows level).map (.deeper depth)
  | .blank => rfl
  | .line _ => rfl
  | .doc lines => Fragment.docRows_deeper depth level lines
  | .emit fragments => Fragment.rowsAll_deeper depth level fragments
  | .indented steps => rowsAll_deeper depth (level + 1) steps
termination_by structural s => s

theorem rowsAll_deeper (depth level : Nat) :
    (ss : List LayoutStep) → rowsAll (depth + level) ss = (rowsAll level ss).map (.deeper depth)
  | [] => rfl
  | s :: rest => by
    rw [rowsAll_cons, rowsAll_cons, rows_deeper depth level s, rowsAll_deeper depth level rest,
      List.map_append]
termination_by structural ss => ss

end

end LayoutStep

/-! ### Runs -/

namespace Page

mutual

/-- **A step appends its rows** at the depth of the page. -/
theorem step_eq (p : Page) : (s : LayoutStep) → p.step s = p.addRows (s.rows p.depth)
  | .blank => rfl
  | .line text => line_eq p text
  | .doc lines => doc_eq p lines
  | .emit fragments => emitAll_eq p fragments
  | .indented steps => by
    -- the body is run on a page that is deeper by one, and the depth is put back behind it
    have hdeeper : p.indented (fun deeper => deeper.run steps) =
        p.addRows (LayoutStep.rowsAll (p.depth + 1) steps) :=
      indented_eq p (run_eq { p with depth := p.depth + 1 } steps)
    exact hdeeper
termination_by structural s => s

/-- **A run appends the rows of its steps.** -/
theorem run_eq (p : Page) :
    (ss : List LayoutStep) → p.run ss = p.addRows (LayoutStep.rowsAll p.depth ss)
  | [] => (addRows_nil p).symm
  | s :: rest => by
    -- the rest begins at the depth of the page again
    rw [run_cons, step_eq p s, run_eq _ rest, addRows_addRows]
    rfl
termination_by structural ss => ss

end

theorem run_append (p : Page) (ss ss' : List LayoutStep) :
    p.run (ss ++ ss') = (p.run ss).run ss' := by
  induction ss generalizing p with
  | nil => rfl
  | cons s ss ih =>
    rw [List.cons_append, run_cons, run_cons]
    exact ih (p.step s)

theorem emitAll_append (p : Page) (fs gs : List Fragment) :
    p.emitAll (fs ++ gs) = (p.emitAll fs).emitAll gs := by
  induction fs generalizing p with
  | nil => rfl
  | cons f fs ih =>
    rw [List.cons_append, emitAll_cons, emitAll_cons]
    exact ih (p.emit f)

/-- **Layout is compositional.** Steps append the text of their rows, each as many levels deeper as
the page is deep, and restore the depth: what they append is the same after any text. Anywhere among
other steps, fragments may be emitted one after the other, and a block in its parts. -/
theorem run_compositional (indent : Indent) (depth : Nat) (steps : List LayoutStep) :
    (∀ text, (Page.mk indent depth text).run steps =
      Page.mk indent depth
        (text ++ renderRows indent.unit ((LayoutStep.rowsAll 0 steps).map (.deeper depth)))) ∧
    ∀ (p : Page) (before after : List LayoutStep),
      (∀ fs gs, p.run (before ++ .emit (fs ++ gs) :: after) =
        p.run (before ++ .emit fs :: .emit gs :: after)) ∧
      ∀ header body close, p.run (before ++ .emit [.block header body close] :: after) =
        p.run (before ++ .line header :: .indented [.emit body] :: .line close :: after) := by
  refine ⟨fun text => ?_, fun p before after => ⟨fun fs gs => ?_, fun header body close => ?_⟩⟩
  · -- the page begins at the top level, and its depth moves all rows
    rw [run_eq, ← LayoutStep.rowsAll_deeper, Nat.add_zero]
    rfl
  · -- what comes before leaves a page, and the steps in question act on that
    rw [run_append, run_append, run_cons, run_cons, run_cons]
    exact congrArg (run · after) (emitAll_append (p.run before) fs gs)
  · -- a block is emitted by these very steps
    rw [run_append, run_append]
    rfl

end Page

end Stencil
