import Stencil.Text.Hidden

/-!
# Quoted texts

A message that shows a text which it was given writes it between double quotes. Quotes and
backslashes are escaped, tabs, line feeds, carriage returns and NUL have escapes of their own, and
every other hidden character is written by its number.
-/

namespace Stencil.Text

/-- How a character is written inside a quoted text. -/
def quotedChar (c : Char) : String :=
  match c with
  | '\x00' => "\\0"
  | '\t' => "\\t"
  | '\n' => "\\n"
  | '\r' => "\\r"
  | '\x22' => "\\\x22"
  | '\\' => "\\\\"
  | c =>
    if isHidden c then "\\u\x7b" ++ String.ofList (Nat.toDigits 16 c.toNat) ++ "\x7d"
    else String.singleton c

/-- The text between double quotes. -/
def quoted (s : String) : String :=
  "\x22" ++ String.join (s.toList.map quotedChar) ++ "\x22"

end Stencil.Text
