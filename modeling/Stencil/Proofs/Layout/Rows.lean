import Stencil.Layout
import Stencil.Proofs.Text.Pieces

/-!
# Pages as rows

What laying out adds to a page is a list of rows, each of them empty or a text at a level of
indentation. `Fragment.rows` lists the rows of a fragment without a page, and `Page.emitAll_eq`
says that emission appends just these: the text before is kept, the depth is restored, and what is
added depends on the page only through its depth and its unit of indentation.

The lines of a page are told by its text (`map_line_inj`), if no row holds a line feed. What the
lines tell of the rows is another matter: a row may begin with blanks of its own.
-/

namespace Stencil

/-- A row of a page. -/
inductive Row where
  | blank
  | text (level : Nat) (content : String)
deriving Repr, DecidableEq

/-- The text of a row, given the text of one level of indentation. -/
def Row.render (unit : String) : Row → String
  | .blank => "\n"
  | .text level content => String.join (List.replicate level unit) ++ content ++ "\n"

/-- The text of rows. -/
def renderRows (unit : String) (rows : List Row) : String :=
  String.join (rows.map (Row.render unit))

theorem renderRows_nil (unit : String) : renderRows unit [] = "" := rfl

theorem renderRows_cons (unit : String) (row : Row) (rows : List Row) :
    renderRows unit (row :: rows) = row.render unit ++ renderRows unit rows := by
  unfold renderRows
  rw [List.map_cons, String.join_cons]

theorem renderRows_append (unit : String) (rows rows' : List Row) :
    renderRows unit (rows ++ rows') = renderRows unit rows ++ renderRows unit rows' := by
  induction rows with
  | nil => rw [renderRows_nil, List.nil_append, String.empty_append]
  | cons row rows ih =>
    rw [List.cons_append, renderRows_cons, renderRows_cons, ih, String.append_assoc]

/-- The line that a row is on a narrow page. -/
def Row.line : Row → List Char
  | .blank => []
  | .text level content => List.replicate (2 * level) ' ' ++ content.toList

theorem toList_render (row : Row) : (row.render "  ").toList = row.line ++ ['\n'] := by
  cases row with
  | blank => rfl
  | text level content =>
    -- the unit is two spaces wide, so a level is two characters
    have hindent : (String.join (List.replicate level "  ")).toList =
        List.replicate (2 * level) ' ' := by
      induction level with
      | zero => rfl
      | succ level ih =>
        rw [List.replicate_succ, String.join_cons, String.toList_append, ih, Nat.mul_succ]
        rfl
    unfold Row.render Row.line
    rw [String.toList_append, String.toList_append, hindent]
    rfl

theorem toList_renderRows (rows : List Row) :
    (renderRows "  " rows).toList = (rows.map Row.line).flatMap (· ++ ['\n']) := by
  unfold renderRows
  rw [String.toList_join, List.flatMap_map, List.flatMap_map]
  exact congrArg (List.flatMap · rows) (funext toList_render)

/-- **The text of a page tells its lines.** -/
theorem map_line_inj {rows rows' : List Row} (h : ∀ line ∈ rows.map Row.line, '\n' ∉ line)
    (h' : ∀ line ∈ rows'.map Row.line, '\n' ∉ line)
    (heq : renderRows "  " rows = renderRows "  " rows') :
    rows.map Row.line = rows'.map Row.line := by
  -- no row has a line feed in it, so the text splits into the lines of its rows
  have hlines := congrArg (fun text => text.toList.splitOn '\n') heq
  simp only [toList_renderRows] at hlines
  rw [Text.splitOn_flatMap h, Text.splitOn_flatMap h'] at hlines
  exact List.append_cancel_right hlines

namespace Fragment

/-- The rows of a documentation comment. -/
def docRows (level : Nat) (lines : List String) : List Row :=
  .text level "/**" :: (lines.map fun l => .text level (Page.docLine l)) ++ [.text level " */"]

mutual

/-- The rows of a fragment that begins at a level. -/
def rows (level : Nat) : Fragment → List Row
  | .line text => [.text level text]
  | .blank => [.blank]
  | .block header body close =>
    .text level header :: rowsAll (level + 1) body ++ [.text level close]
  | .doc lines => docRows level lines
termination_by structural f => f

/-- The rows of fragments that follow each other. -/
def rowsAll (level : Nat) : List Fragment → List Row
  | [] => []
  | f :: rest => f.rows level ++ rowsAll level rest
termination_by structural fs => fs

end

theorem rows_line (level : Nat) (text : String) : (line text).rows level = [.text level text] := rfl

theorem rows_block (level : Nat) (header : String) (body : List Fragment) (close : String) :
    (block header body close).rows level =
      .text level header :: rowsAll (level + 1) body ++ [.text level close] := rfl

theorem rows_doc (level : Nat) (lines : List String) :
    (doc lines).rows level = docRows level lines := rfl

theorem rowsAll_cons (level : Nat) (f : Fragment) (rest : List Fragment) :
    rowsAll level (f :: rest) = f.rows level ++ rowsAll level rest := rfl

theorem rowsAll_append (level : Nat) (fs gs : List Fragment) :
    rowsAll level (fs ++ gs) = rowsAll level fs ++ rowsAll level gs := by
  induction fs with
  | nil => rfl
  | cons f fs ih => rw [List.cons_append, rowsAll_cons, rowsAll_cons, ih, List.append_assoc]

theorem rowsAll_singleton (level : Nat) (f : Fragment) : rowsAll level [f] = f.rows level :=
  List.append_nil _

/-- Lines that follow each other are rows of one level. -/
theorem rowsAll_lines (level : Nat) (texts : List String) :
    rowsAll level (texts.map .line) = texts.map (.text level) := by
  induction texts with
  | nil => rfl
  | cons t texts ih =>
    rw [List.map_cons, rowsAll_cons, ih]
    rfl

end Fragment

namespace Page

/-- The page with more rows. -/
def addRows (p : Page) (rows : List Row) : Page :=
  p.append (renderRows p.indent.unit rows)

theorem addRows_text (p : Page) (rows : List Row) :
    (p.addRows rows).text = p.text ++ renderRows p.indent.unit rows := rfl

theorem addRows_nil (p : Page) : p.addRows [] = p := by
  unfold addRows append
  rw [renderRows_nil, String.append_empty]

/-- Rows are added one after the other. -/
theorem addRows_addRows (p : Page) (rows rows' : List Row) :
    (p.addRows rows).addRows rows' = p.addRows (rows ++ rows') := by
  change Page.mk p.indent p.depth
      (p.text ++ renderRows p.indent.unit rows ++ renderRows p.indent.unit rows') =
    Page.mk p.indent p.depth (p.text ++ renderRows p.indent.unit (rows ++ rows'))
  rw [renderRows_append, String.append_assoc]

/-- A line is a row at the depth of the page. -/
theorem line_eq (p : Page) (text : String) : p.line text = p.addRows [.text p.depth text] := by
  unfold line addRows
  rw [renderRows_cons, renderRows_nil, String.append_empty]
  rfl

/-- Lines that follow each other. -/
theorem foldl_line (p : Page) (f : String → String) (lines : List String) :
    lines.foldl (fun p text => p.line (f text)) p =
      p.addRows (lines.map fun l => .text p.depth (f l)) := by
  induction lines generalizing p with
  | nil => rw [List.map_nil, addRows_nil, List.foldl_nil]
  | cons l lines ih =>
    -- the page with the line has the depth of the page
    rw [List.foldl_cons, ih (p.line (f l)), line_eq, addRows_addRows]
    rfl

theorem doc_eq (p : Page) (lines : List String) :
    p.doc lines = p.addRows (Fragment.docRows p.depth lines) := by
  unfold doc
  rw [line_eq p, foldl_line, addRows_addRows, line_eq, addRows_addRows]
  rfl

/-- What is added one level deeper is added, and the depth is restored. -/
theorem indented_eq (p : Page) {additions : Page → Page} {rows : List Row}
    (h : additions { p with depth := p.depth + 1 } =
      ({ p with depth := p.depth + 1 } : Page).addRows rows) :
    p.indented additions = p.addRows rows := by
  unfold indented
  rw [h]
  rfl

mutual

/-- **Emission appends the rows of a fragment** at the depth of the page. -/
theorem emit_eq (p : Page) : (f : Fragment) → p.emit f = p.addRows (f.rows p.depth)
  | .line text => line_eq p text
  | .blank => rfl
  | .doc lines => doc_eq p lines
  | .block header body close => by
    -- the body is emitted one level deeper, and the closing line at the depth of the header
    have hbody : (p.line header).indented (fun deeper => deeper.emitAll body) =
        (p.line header).addRows (Fragment.rowsAll (p.depth + 1) body) :=
      indented_eq _ (emitAll_eq { p.line header with depth := p.depth + 1 } body)
    rw [emit_block, hbody, line_eq p, addRows_addRows, line_eq, addRows_addRows]
    rfl
termination_by structural f => f

/-- **Emission appends the rows of fragments.** -/
theorem emitAll_eq (p : Page) :
    (fs : List Fragment) → p.emitAll fs = p.addRows (Fragment.rowsAll p.depth fs)
  | [] => (addRows_nil p).symm
  | f :: rest => by
    rw [emitAll_cons, emit_eq p f, emitAll_eq _ rest, addRows_addRows]
    rfl
termination_by structural fs => fs

end

end Page

end Stencil
