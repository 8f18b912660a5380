import Stencil.Text.Numeral

/-!
# Java identifiers

`fault?` says what keeps a text from being an identifier. A qualified name is a sequence of
identifiers with dots between them; `qualifiedFault?` gives its first bad segment.
-/

namespace Stencil.Java

/-- Why a text is no identifier. -/
inductive NameFault where
  | empty
  | badStart
  | badCharacter
  | reserved
deriving Repr, DecidableEq

/-- The fault in words. -/
def NameFault.reason : NameFault → String
  | .empty => "identifier is empty"
  | .badStart => "identifier must start with a letter, '_' or '$'"
  | .badCharacter => "identifier contains an invalid character"
  | .reserved => "identifier is a reserved word"

/-- The words that no identifier may be: keywords, literals and the lone underscore. -/
def reservedWords : List String :=
  ["abstract", "assert", "boolean", "break", "byte", "case", "catch", "char", "class", "const",
    "continue", "default", "do", "double", "else", "enum", "extends", "final", "finally", "float",
    "for", "goto", "if", "implements", "import", "instanceof", "int", "interface", "long",
    "native", "new", "package", "private", "protected", "public", "return", "short", "static",
    "strictfp", "super", "switch", "synchronized", "this", "throw", "throws", "transient", "try",
    "void", "volatile", "while", "_", "true", "false", "null"]

/-- Whether a text is a reserved word. -/
def isReserved (name : String) : Bool :=
  reservedWords.contains name

/-- Whether an identifier may start with a character. -/
def isStart (c : Char) : Bool :=
  Text.isLetter c || c == '_' || c == '$'

/-- Whether an identifier may go on with a character. -/
def isPart (c : Char) : Bool :=
  Text.isLetterOrNumeral c || c == '_' || c == '$'

/-- What keeps a text from being an identifier, the first of the faults in the order of their
listing. -/
def fault? (name : String) : Option NameFault :=
  match name.toList with
  | [] => some .empty
  | first :: rest =>
    if !isStart first then some .badStart
    else if !rest.all isPart then some .badCharacter
    else if isReserved name then some .reserved
    else none

/-- Whether a text is an identifier. -/
def isIdentifier (name : String) : Bool :=
  (fault? name).isNone

/-- The pieces of a name between its dots. There is at least one. -/
def segments (name : String) : List String :=
  (name.toList.splitOn '.').map String.ofList

/-- The first segment that is no identifier, with its fault. -/
def qualifiedFault? (name : String) : Option (String × NameFault) :=
  (segments name).findSome? fun segment => (fault? segment).map (segment, ·)

theorem isPart_of_isStart {c : Char} (h : isStart c = true) : isPart c = true := by
  simp only [isStart, isPart, Text.isLetterOrNumeral, Bool.or_eq_true] at h ⊢
  obtain (h | h) | h := h <;> simp [h]

@[simp] theorem isIdentifier_empty : isIdentifier "" = false := rfl

/-- A text that is not empty is an identifier if it begins with a start character, goes on with
part characters and is not reserved. -/
theorem isIdentifier_of_toList {name : String} {first : Char} {rest : List Char}
    (h : name.toList = first :: rest) :
    isIdentifier name = (isStart first && rest.all isPart && !isReserved name) := by
  unfold isIdentifier fault?
  rw [h]
  dsimp only
  cases isStart first <;> cases rest.all isPart <;> cases isReserved name <;> rfl

end Stencil.Java
