import Stencil.Text.Lines

/-!
# Layout of generated text

A fragment is a piece of text without its indentation: a line, a blank line, a documentation
comment, or a block of fragments between a header and a closing line. A page is text under
construction; it knows how deep it is, and every line that is added to it is indented by as many
units. `Page.emit` lays a fragment out, and `Page.run` follows a list of steps.
-/

namespace Stencil

/-- What one level of indentation looks like. -/
inductive Indent where
  | narrow
  | wide
  | tab
deriving Repr, DecidableEq

/-- The text of one level of indentation. -/
def Indent.unit : Indent → String
  | .narrow => "  "
  | .wide => "    "
  | .tab => "\t"

/-- A piece of generated text, not yet indented. -/
inductive Fragment where
  | line (text : String)
  | blank
  | block (header : String) (body : List Fragment) (close : String)
  | doc (lines : List String)
deriving Repr

namespace Fragment

/-- A block that a brace closes. -/
def braced (header : String) (body : List Fragment) : Fragment :=
  block header body "\x7d"

/-- A documentation comment with the lines of a text. -/
def docOf (text : String) : Fragment :=
  doc (Text.linesOf text)

end Fragment

/-- Text under construction. -/
structure Page where
  indent : Indent := .narrow
  depth : Nat := 0
  text : String := ""
deriving Repr, DecidableEq

namespace Page

/-- The page with more text, as it is. -/
def append (p : Page) (text : String) : Page :=
  { p with text := p.text ++ text }

/-- The page with one more line, indented to its depth. -/
def line (p : Page) (text : String) : Page :=
  p.append (String.join (List.replicate p.depth p.indent.unit) ++ text ++ "\n")

/-- The page with one more line that is empty. -/
def blank (p : Page) : Page :=
  p.append "\n"

/-- The page that results from some additions one level deeper. -/
def indented (p : Page) (additions : Page → Page) : Page :=
  let deeper := additions { p with depth := p.depth + 1 }
  { deeper with depth := deeper.depth - 1 }

/-- A line of a documentation comment. -/
def docLine (text : String) : String :=
  if text.isEmpty then " *" else " * " ++ text

/-- The page with a documentation comment. -/
def doc (p : Page) (lines : List String) : Page :=
  (lines.foldl (fun p text => p.line (docLine text)) (p.line "/**")).line " */"

mutual

/-- The page with a fragment laid out. -/
def emit (p : Page) : Fragment → Page
  | .line text => p.line text
  | .blank => p.blank
  | .block header body close =>
    ((p.line header).indented fun deeper => deeper.emitAll body).line close
  | .doc lines => p.doc lines
termination_by structural f => f

/-- The page with fragments laid out one after the other. -/
def emitAll (p : Page) : List Fragment → Page
  | [] => p
  | f :: rest => (p.emit f).emitAll rest
termination_by structural fs => fs

end

@[simp] theorem emitAll_nil (p : Page) : p.emitAll [] = p := rfl

@[simp] theorem emitAll_cons (p : Page) (f : Fragment) (rest : List Fragment) :
    p.emitAll (f :: rest) = (p.emit f).emitAll rest := rfl

theorem emit_block (p : Page) (header : String) (body : List Fragment) (close : String) :
    p.emit (.block header body close) =
      ((p.line header).indented fun deeper => deeper.emitAll body).line close := rfl

end Page

/-- One addition to a page. -/
inductive LayoutStep where
  | blank
  | line (text : String)
  | doc (lines : List String)
  | emit (fragments : List Fragment)
  | indented (steps : List LayoutStep)
deriving Repr

namespace Page

mutual

/-- The page after a step. -/
def step (p : Page) : LayoutStep → Page
  | .blank => p.blank
  | .line text => p.line text
  | .doc lines => p.doc lines
  | .emit fragments => p.emitAll fragments
  | .indented steps => p.indented fun deeper => deeper.run steps
termination_by structural s => s

/-- The page after some steps. -/
def run (p : Page) : List LayoutStep → Page
  | [] => p
  | s :: rest => (p.step s).run rest
termination_by structural ss => ss

end

@[simp] theorem run_nil (p : Page) : p.run [] = p := rfl

@[simp] theorem run_cons (p : Page) (s : LayoutStep) (rest : List LayoutStep) :
    p.run (s :: rest) = (p.step s).run rest := rfl

end Page

end Stencil
