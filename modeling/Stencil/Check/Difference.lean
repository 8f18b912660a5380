import Stencil.Text.Lines

/-!
# Differences between texts

Tells two texts apart line by line, as one wants to see it when generated text is not what was
expected. Texts with the same lines may still differ in how their lines end.
-/

namespace Stencil

/-- A line that two texts do not share, as shown for each. -/
structure LineDifference where
  number : Nat
  expected : String
  actual : String
deriving Repr, DecidableEq

/-- How two texts differ: in the way lines end, or in some lines. -/
inductive Difference where
  | lineEnds
  | lines (rows : List LineDifference)
deriving Repr, DecidableEq

/-- What is shown of a line that a text does not have. -/
def missingLine : String :=
  "<missing>"

/-- What is shown of a line of a text. -/
def shownLine (lines : List String) (index : Nat) : String :=
  (lines[index]?).getD missingLine

/-- The lines that are not shown alike, numbered from one. -/
def lineDifferences (expected actual : List String) : List LineDifference :=
  (List.range (max expected.length actual.length)).filterMap fun i =>
    let row : LineDifference := ⟨i + 1, shownLine expected i, shownLine actual i⟩
    if row.expected = row.actual then none else some row

/-- How a text differs from the one that was expected. -/
def difference? (expected actual : String) : Option Difference :=
  if expected = actual then none
  else
    match lineDifferences (Text.linesOf expected) (Text.linesOf actual) with
    | [] => some .lineEnds
    | rows => some (.lines rows)

/-- A line that two texts do not share, in words. -/
def LineDifference.text (row : LineDifference) : String :=
  s!"Line {row.number}:\n  expected: {row.expected}\n  actual:   {row.actual}\n"

/-- The difference in words. -/
def Difference.message : Difference → String
  | .lineEnds => "Content mismatch in line endings or trailing newline"
  | .lines rows => "Content mismatch:\n" ++ String.join (rows.map (·.text))

end Stencil
