/-!
# Comments in Java source

`stripComments` leaves out the comments of a source text. It knows no string literals: a `//`
inside quotes starts a comment like any other.
-/

namespace Stencil.Java

/-- Where a scan for comments stands: in code, in a comment that the line ends, or in a comment
that `*/` ends, of which a star may just have been read. -/
inductive CommentState where
  | code
  | line
  | block (afterStar : Bool)
deriving Repr, DecidableEq

/-- What is left of a text without its comments, if the text begins in the given state. The line
feed behind a line comment stays. The star that opens a block comment counts as a star of its end
too, so `/*/` is a whole comment. -/
def stripFrom : CommentState → List Char → List Char
  | .code, '/' :: '*' :: rest => stripFrom (.block true) rest
  | .code, '/' :: '/' :: rest => stripFrom .line rest
  | .code, c :: rest => c :: stripFrom .code rest
  | .line, c :: rest => if c = '\n' then c :: stripFrom .code rest else stripFrom .line rest
  | .block afterStar, c :: rest =>
    if afterStar ∧ c = '/' then stripFrom .code rest else stripFrom (.block (c = '*')) rest
  | _, [] => []

/-- What is left of a source text without its comments. -/
def stripComments (source : List Char) : List Char :=
  stripFrom .code source

@[simp] theorem stripFrom_nil (state : CommentState) : stripFrom state [] = [] := by
  cases state <;> rw [stripFrom]

end Stencil.Java
