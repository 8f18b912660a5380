/-!
# White space

`isSpace` is the property White_Space of a character. Trimming and the division of a line into
words go by it; the characters that only look like a space, such as the zero width space U+200B,
do not have it.
-/

namespace Stencil.Text

/-- Whether a character has the property White_Space. -/
def isSpace (c : Char) : Bool :=
  let n := c.toNat
  (0x9 ≤ n && n ≤ 0xD) || n == 0x20 || n == 0x85 || n == 0xA0 || n == 0x1680 ||
    (0x2000 ≤ n && n ≤ 0x200A) || n == 0x2028 || n == 0x2029 || n == 0x202F || n == 0x205F ||
    n == 0x3000

/-- What is left of a text without the white space at its front. -/
def trimStart (s : List Char) : List Char :=
  s.dropWhile isSpace

/-- What is left of a text without the white space at its end. -/
def trimEnd (s : List Char) : List Char :=
  (s.reverse.dropWhile isSpace).reverse

/-- What is left of a text without the white space around it. -/
def trim (s : List Char) : List Char :=
  trimEnd (trimStart s)

/-- The maximal runs of characters that are not white space, in order. -/
def words (s : List Char) : List (List Char) :=
  (s.splitOnP isSpace).filter (!·.isEmpty)

@[simp] theorem trim_nil : trim [] = [] := rfl

@[simp] theorem words_nil : words [] = [] := by simp [words]

end Stencil.Text
