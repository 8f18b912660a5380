/-!
# Lines of a text

A line ends before `\n`, or before `\r\n`, and the last line may go without an ending. A carriage
return that no line feed follows belongs to its line, and the nothing behind a final line feed is
no line.
-/

namespace Stencil.Text

/-- A line without the carriage return that stood before its line feed. -/
def dropReturn (line : List Char) : List Char :=
  if line.getLast? = some '\r' then line.dropLast else line

/-- Turns the pieces between line feeds into lines. -/
def linesOfPieces : List (List Char) → List (List Char)
  | [] => []
  | [last] => if last.isEmpty then [] else [last]
  | piece :: rest => dropReturn piece :: linesOfPieces rest

/-- The lines of a text, without their endings. -/
def lines (s : List Char) : List (List Char) :=
  linesOfPieces (s.splitOn '\n')

/-- `lines` for strings. -/
def linesOf (s : String) : List String :=
  (lines s.toList).map String.ofList

@[simp] theorem lines_nil : lines [] = [] := by simp [lines, List.splitOn, linesOfPieces]

end Stencil.Text
