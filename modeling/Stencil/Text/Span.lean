import Stencil.Total

/-!
# Places in a text

A place in a text is a span: an offset and a length, both in bytes of its UTF-8 form. Searching a
text for another one gives the spans of its occurrences from left to right, each beginning where
the one before it has ended or later.
-/

namespace Stencil.Text

/-- A stretch of a text, in bytes. -/
structure Span where
  offset : Nat
  length : Nat
deriving Repr, DecidableEq

/-- The length of a text in bytes. -/
def byteLength (s : List Char) : Nat :=
  total Char.utf8Size s

@[simp] theorem byteLength_nil : byteLength [] = 0 := rfl

@[simp] theorem byteLength_cons (c : Char) (s : List Char) :
    byteLength (c :: s) = c.utf8Size + byteLength s := rfl

@[simp] theorem byteLength_append (s t : List Char) :
    byteLength (s ++ t) = byteLength s + byteLength t := by
  simp [byteLength]

/-- The byte offsets at which `needle` occurs in a text that `offset` bytes stand before. The
first `skip` characters belong to an occurrence that was found already. -/
def occurrencesFrom (needle : List Char) : Nat → Nat → List Char → List Nat
  | _, _, [] => []
  | offset, skip + 1, c :: rest => occurrencesFrom needle (offset + c.utf8Size) skip rest
  | offset, 0, c :: rest =>
    if needle.isPrefixOf (c :: rest) then
      offset :: occurrencesFrom needle (offset + c.utf8Size) (needle.length - 1) rest
    else occurrencesFrom needle (offset + c.utf8Size) 0 rest

/-- The byte offsets of the occurrences of a text that is not empty. -/
def occurrences (needle text : List Char) : List Nat :=
  occurrencesFrom needle 0 0 text

/-- The spans of a value wherever it stands between double quotes. -/
def quotedSpans (text value : String) : List Span :=
  (occurrences ('\x22' :: value.toList ++ ['\x22']) text.toList).map fun offset =>
    ⟨offset + 1, byteLength value.toList⟩

/-- The span of a key where it is first followed by ` =`, or else where it is first followed
by `=`. -/
def keySpan? (text key : String) : Option Span :=
  let first (ending : List Char) := (occurrences (key.toList ++ ending) text.toList).head?
  (first [' ', '='] <|> first ['=']).map fun offset => ⟨offset, byteLength key.toList⟩

end Stencil.Text
