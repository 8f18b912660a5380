import Stencil.Java.Comment
import Stencil.Text.Space

/-!
# Outlines of Java source

The outline of a source text is what it declares: its package, its class with modifiers, and the
fields and methods of that class. Comments, method bodies and layout do not show in it, so two
texts that declare the same class have the same outline.

`Outline.read` scans the text once. Braces give the depth; outside every brace stand the package
declaration and the class header, inside one brace the members, and what is deeper is skipped.
-/

namespace Stencil.Java

/-- A field or a method as declared. A method has the text of its parameters. -/
structure MemberOutline where
  modifiers : List String
  type : String
  name : String
  params : Option String
deriving Repr, DecidableEq

/-- What a source text declares. -/
structure Outline where
  package : Option String := none
  className : String := ""
  classModifiers : List String := []
  fields : List MemberOutline := []
  methods : List MemberOutline := []
deriving Repr, DecidableEq

/-- Why a text has no outline. -/
inductive OutlineError where
  | strayClose
  | missingClose
  | noClass
  | namelessClass (header : String)
  | strayStatement (statement : String)
  | noParameters (header : String)
  | openParameters (header : String)
  | malformedMember (text : String)
deriving Repr, DecidableEq

/-- The error in words. -/
def OutlineError.message : OutlineError → String
  | .strayClose => "unbalanced '\x7d'"
  | .missingClose => "unbalanced '\x7b'"
  | .noClass => "no class declaration found"
  | .namelessClass header => s!"class header without a name: '{header}'"
  | .strayStatement statement => s!"unexpected top-level statement: '{statement}'"
  | .noParameters header => s!"method header without parameters: '{header}'"
  | .openParameters header => s!"unterminated parameter list: '{header}'"
  | .malformedMember text => s!"malformed member declaration: '{text}'"

/-- Reads a declaration: its last word is the name, the word before it the type, and all others are
modifiers. -/
def readMember (text : List Char) (params : Option String) : Except OutlineError MemberOutline :=
  match ((Text.words text).map String.ofList).reverse with
  | name :: type :: modifiers => .ok ⟨modifiers.reverse, type, name, params⟩
  | _ => .error (.malformedMember (String.ofList text))

/-- Reads the header of a method: a declaration, and the parameters in parentheses. -/
def readMethod (header : List Char) : Except OutlineError MemberOutline :=
  match header.dropWhile (· ≠ '(') with
  | [] => .error (.noParameters (String.ofList header))
  | _ :: params =>
    if params.getLast? = some ')' then
      readMember (header.takeWhile (· ≠ '('))
        (some (String.ofList (Text.trim params.dropLast)))
    else .error (.openParameters (String.ofList header))

namespace Outline

/-- The outline with a class header read: the words before `class` are modifiers, the word after it
is the name. -/
def readClassHeader (o : Outline) (header : List Char) : Except OutlineError Outline :=
  let words := (Text.words header).map String.ofList
  match words.dropWhile (· ≠ "class") with
  | _ :: name :: _ =>
    .ok { o with
      classModifiers := o.classModifiers ++ words.takeWhile (· ≠ "class")
      className := name }
  | _ => .error (.namelessClass (String.ofList header))

/-- The outline with a statement outside the class read, which can only be the package
declaration. -/
def readStatement (o : Outline) (statement : List Char) : Except OutlineError Outline :=
  let keyword := "package".toList
  if keyword.isPrefixOf statement then
    .ok { o with package := some (String.ofList (Text.trim (statement.drop keyword.length))) }
  else .error (.strayStatement (String.ofList statement))

/-- The outline with one more field. -/
def readField (o : Outline) (statement : List Char) : Except OutlineError Outline := do
  return { o with fields := o.fields ++ [← readMember statement none] }

/-- The outline with one more method. -/
def addMethod (o : Outline) (header : List Char) : Except OutlineError Outline := do
  return { o with methods := o.methods ++ [← readMethod header] }

/-- A scan in progress: what was found, how many braces are open, and the characters, newest
first, since the last brace or semicolon. -/
structure Scan where
  found : Outline := {}
  depth : Nat := 0
  pending : List Char := []
deriving Repr, DecidableEq

/-- The pending characters in reading order, without white space around them. -/
def Scan.pendingText (s : Scan) : List Char :=
  Text.trim s.pending.reverse

/-- The scan after one more character. -/
def Scan.next (s : Scan) (c : Char) : Except OutlineError Scan :=
  if c = '\x7b' then do
    let found ← match s.depth with
      | 0 => s.found.readClassHeader s.pendingText
      | 1 => s.found.addMethod s.pendingText
      | _ => pure s.found
    return ⟨found, s.depth + 1, []⟩
  else if c = '\x7d' then
    match s.depth with
    | 0 => .error .strayClose
    | depth + 1 => .ok ⟨s.found, depth, []⟩
  else if c = ';' then do
    let found ← match s.depth with
      | 0 => s.found.readStatement s.pendingText
      | 1 => s.found.readField s.pendingText
      | _ => pure s.found
    return ⟨found, s.depth, []⟩
  else if s.depth ≤ 1 then .ok { s with pending := c :: s.pending }
  else .ok s

/-- What a scan has found at the end of the text. -/
def Scan.finish (s : Scan) : Except OutlineError Outline :=
  if s.depth ≠ 0 then .error .missingClose
  else if s.found.className.isEmpty then .error .noClass
  else .ok s.found

/-- The outline of a source text. -/
def read (source : String) : Except OutlineError Outline := do
  let scan ← (stripComments source.toList).foldlM Scan.next {}
  scan.finish

end Outline

end Stencil.Java
