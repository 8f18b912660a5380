import Stencil.Config.Toml.Quoted
import Stencil.Config.Toml.Scalar
import Stencil.Config.Toml.Table

/-!
# TOML texts

Reads a text of TOML 1.1: first into a document of lines and sections, whose meaning is then put
together. Arrays and tables in braces may run over several lines and may have a comma behind the
last item.
-/

namespace Stencil.Config.Toml

/-- How deep arrays and tables in braces may be nested. -/
def maxDepth : Nat :=
  80

/-- Skips a comment, if there is one. -/
def skipComment : Reader Unit := do
  if ← Reader.takeIf '#' then
    let _ ← Reader.run isPlain

/-- Skips blanks, comments and ends of lines. -/
def skipTrivia : Reader Unit := do
  let _ ← Reader.many do
    skipBlanks
    skipComment
    if ← newlineIf then return some () else return none

/-- Things between commas up to a closing character, which stays. A comma may stand behind the last
thing. -/
def readItems {α : Type} (close : Char) (item : Reader α) : Reader (List α) :=
  Reader.many do
    skipTrivia
    if (← Reader.peek?) == some close then return none
    else
      let a ← item
      skipTrivia
      if !(← Reader.takeIf ',') then guard ((← Reader.peek?) == some close)
      return some a

/-- A line of a table, given what may stand around its equals sign. -/
def readAssignment (skip : Reader Unit) (value : Reader Value) : Reader Assignment := do
  let (path, key) ← readPath
  skip
  Reader.take '='
  skip
  return ⟨path, key, ← value⟩

/-- A value, given how the values inside it are read; `none` if there may be none. -/
def readValueOver (inner? : Option (Reader Value)) : Reader Value := do
  match ← Reader.peek? with
  | some '\x22' | some '\x27' => return .string (← readString)
  | some '[' =>
    let inner ← liftM inner?
    Reader.take '['
    let items ← readItems ']' inner
    Reader.take ']'
    return .array items
  | some '\x7b' =>
    let inner ← liftM inner?
    Reader.take '\x7b'
    let lines ← readItems '\x7d' (readAssignment skipTrivia inner)
    Reader.take '\x7d'
    liftM (tableOf? lines)
  | _ => readScalar

/-- A value that is not nested deeper than a given number. -/
def readValue : Nat → Reader Value
  | 0 => readValueOver none
  | depth + 1 => readValueOver (some (readValue depth))

/-- The header of a section. -/
def readHeader : Reader Section := do
  Reader.take '['
  let isElement ← Reader.takeIf '['
  skipBlanks
  let (path, key) ← readPath
  skipBlanks
  Reader.take ']'
  if isElement then Reader.take ']'
  return ⟨path, key, isElement, []⟩

/-- What a line of a document says. -/
inductive Statement where
  | assignment (a : Assignment)
  | header (s : Section)
deriving Repr

/-- The next line that says anything, up to its end, or nothing at the end of the text. -/
def readStatement : Reader (Option Statement) := do
  skipTrivia
  if ← Reader.atEnd then return none
  else
    let statement ←
      if (← Reader.peek?) == some '[' then Statement.header <$> readHeader
      else Statement.assignment <$> readAssignment skipBlanks (readValue maxDepth)
    skipBlanks
    skipComment
    if !(← Reader.atEnd) then guard (← newlineIf)
    return some statement

/-- The document that some lines make: each header takes the lines up to the next one. -/
def Document.ofStatements : List Statement → Document
  | [] => ⟨[], []⟩
  | .assignment a :: rest =>
    let d := ofStatements rest
    { d with lines := a :: d.lines }
  | .header s :: rest =>
    let d := ofStatements rest
    ⟨[], { s with lines := d.lines } :: d.sections⟩

/-- The document that a text lays out. A byte order mark at its beginning does not count. -/
def Document.read? (text : String) : Option Document :=
  let content :=
    match text.toList with
    | '\uFEFF' :: rest => rest
    | rest => rest
  ((Reader.many readStatement).whole content).map Document.ofStatements

/-- The value of a text. -/
def read? (text : String) : Option Value :=
  (Document.read? text).bind Document.value?

end Stencil.Config.Toml
