/-!
# Java types

A type is a primitive type, a class by its name, an array of a type, or `void`. `TypeRef.text`
writes a type and `TypeRef.parse?` reads one. Reading looks at the spelling only: that the name of
a class is a Java name is checked where a class is built.
-/

namespace Stencil.Java

/-- The primitive types. -/
inductive Primitive where
  | boolean
  | byte
  | char
  | short
  | int
  | long
  | float
  | double
deriving Repr, DecidableEq

namespace Primitive

/-- Every primitive type. -/
def all : List Primitive :=
  [boolean, byte, char, short, int, long, float, double]

/-- The keyword of a primitive type. -/
def keyword : Primitive → String
  | boolean => "boolean"
  | byte => "byte"
  | char => "char"
  | short => "short"
  | int => "int"
  | long => "long"
  | float => "float"
  | double => "double"

/-- The primitive type that a keyword names. -/
def ofKeyword? (word : String) : Option Primitive :=
  all.find? (·.keyword == word)

@[simp] theorem ofKeyword?_keyword (p : Primitive) : ofKeyword? p.keyword = some p := by
  cases p <;> rfl

end Primitive

/-- A type as it is written in a declaration. -/
inductive TypeRef where
  | primitive (p : Primitive)
  | array (element : TypeRef)
  | named (name : String)
  | void
deriving Repr, DecidableEq

namespace TypeRef

/-- How a type is written. -/
def text : TypeRef → String
  | primitive p => p.keyword
  | array element => element.text ++ "[]"
  | named name => name
  | void => "void"

/-- What is left of a type when every array around it is taken away. -/
def innermost : TypeRef → TypeRef
  | array element => element.innermost
  | t => t

/-- How many arrays stand around the innermost type. -/
def dimensions : TypeRef → Nat
  | array element => element.dimensions + 1
  | _ => 0

/-- The array type with a number of dimensions over a type. -/
def arrays (element : TypeRef) : Nat → TypeRef
  | 0 => element
  | n + 1 => array (element.arrays n)

/-- Whether a type is `void` itself. -/
def isVoid (t : TypeRef) : Bool :=
  t == void

/-- The type that a word without brackets spells. No type is spelt by the empty word. -/
def ofWord? (word : String) : Option TypeRef :=
  if word.isEmpty then none
  else if word == "void" then some void
  else
    match Primitive.ofKeyword? word with
    | some p => some (primitive p)
    | none => some (named word)

/-- The array type over a type that was read, unless that is `void`. -/
def arrayOf? : TypeRef → Option TypeRef
  | void => none
  | element => some (array element)

/-- Reads a type from the characters of its spelling, last character first. -/
def parseReversed? : List Char → Option TypeRef
  | ']' :: '[' :: rest => (parseReversed? rest).bind arrayOf?
  | word => ofWord? (String.ofList word.reverse)

/-- Reads a type: a word, and a pair of brackets for each array around it. -/
def parse? (spelling : String) : Option TypeRef :=
  parseReversed? spelling.toList.reverse

@[simp] theorem dimensions_arrays (t : TypeRef) (n : Nat) :
    (t.arrays n).dimensions = t.dimensions + n := by
  induction n with
  | zero => rfl
  | succ n ih => simp only [arrays, dimensions, ih]; omega

@[simp] theorem innermost_arrays (t : TypeRef) (n : Nat) :
    (t.arrays n).innermost = t.innermost := by
  induction n with
  | zero => rfl
  | succ n ih => simp [arrays, innermost, ih]

end TypeRef

end Stencil.Java
