import Stencil.Config.Reader
import Stencil.Config.Value

/-!
# JSON

Reads a JSON text. Whole numbers that fit into 64 bits are integers, all other numbers are doubles,
the negative zero among them. Of a double only those digits count that together fit into 64 bits,
and the integer that they make is scaled by a power of ten. Of two members with one key the later
one counts.
-/

namespace Stencil.Config.Json

/-- White space between tokens. -/
def skipSpace : Reader Unit := do
  let _ ← Reader.run fun c => c == ' ' || c == '\n' || c == '\r' || c == '\t'

/-- A code unit behind `\u`. -/
def readUnit : Reader Nat :=
  readHex 4

/-- The character that a code unit begins: itself, or for a high surrogate a pair with the low one
that has to follow. -/
def readEscapedUnit : Reader Char := do
  let unit ← readUnit
  if 0xD800 ≤ unit ∧ unit < 0xDC00 then
    Reader.word ['\\', 'u']
    let low ← readUnit
    if 0xDC00 ≤ low ∧ low < 0xE000 then
      liftM (scalar? (0x10000 + (unit - 0xD800) * 0x400 + (low - 0xDC00)))
    else failure
  else liftM (scalar? unit)

/-- The characters that stand for themselves or for a control character behind a backslash. -/
def shortEscapes : List (Char × Char) :=
  [('\x22', '\x22'), ('\\', '\\'), ('/', '/'), ('b', '\x08'), ('f', '\x0c'), ('n', '\n'),
    ('r', '\r'), ('t', '\t')]

/-- One character of a string, or nothing at the quote that ends it. -/
def readStringChar : Reader (Option Char) := do
  let c ← Reader.next
  if c == '\x22' then return none
  else if c == '\\' then
    if ← Reader.takeIf 'u' then return some (← readEscapedUnit)
    else return some (← liftM (shortEscapes.lookup (← Reader.next)))
  else if c.toNat < 0x20 then failure
  else return some c

/-- A string, from its opening quote on. -/
def readString : Reader String := do
  Reader.take '\x22'
  return String.ofList (← Reader.many readStringChar)

/-- One or more digits. -/
def readDigits : Reader (List Char) := do
  let digits ← Reader.run isDigit
  if digits.isEmpty then failure else return digits

/-- The digits before a point: a lone zero, or digits that begin with another one. -/
def readWhole : Reader (List Char) := do
  let digits ← readDigits
  if digits.head? == some '0' && digits.length > 1 then failure else return digits

/-- The digits behind a point, if there is one. -/
def readFraction? : Reader (Option (List Char)) := do
  if ← Reader.takeIf '.' then return some (← readDigits) else return none

/-- A power of ten, if there is one. -/
def readPower? : Reader (Option Int) := do
  let mark ← Reader.peek?
  if mark == some 'e' || mark == some 'E' then
    let _ ← Reader.next
    let negative ← Reader.takeIf '-'
    if !negative then let _ ← Reader.takeIf '+'
    let power := digitsValue 10 (← readDigits)
    return some (if negative then -power else power)
  else return none

/-- A number with more digits behind it, for as long as it fits into 64 bits, and the digits that
are left then. -/
def appendDigits (n : Nat) : List Char → Nat × List Char
  | [] => (n, [])
  | c :: rest =>
    let next := n * 10 + digitsValue 10 [c]
    if next ≤ maxWord then appendDigits next rest else (n, c :: rest)

/-- A double by its digits and its power of ten. Digits before the point that do not fit count as
zeros, those behind it do not count at all. -/
def double? (negative : Bool) (whole fraction : List Char) (power : Int) : Option Value :=
  let (n, zeros) := appendDigits 0 whole
  let (digits, unread) := appendDigits n fraction
  (Binary64.ofScaled? negative digits
    (power + zeros.length - (fraction.length - unread.length))).map .float

/-- A whole number, as an integer if it fits. -/
def wholeNumber? (negative : Bool) (whole : List Char) : Option Value :=
  let n := digitsValue 10 whole
  if negative ∧ 0 < n ∧ minWord ≤ -n then some (.integer (-n))
  else if ¬negative ∧ n ≤ maxWord then some (.integer n)
  else double? negative whole [] 0

/-- A number. -/
def readNumber : Reader Value := do
  let negative ← Reader.takeIf '-'
  let whole ← readWhole
  let fraction? ← readFraction?
  let power? ← readPower?
  liftM (match fraction?, power? with
    | none, none => wholeNumber? negative whole
    | _, _ => double? negative whole (fraction?.getD []) (power?.getD 0))

/-- What a bracket opens: things between commas up to the closing bracket. -/
def readList {α : Type} (close : Char) (item : Reader α) : Reader (List α) := do
  skipSpace
  if ← Reader.takeIf close then return []
  else
    let first ← item
    let rest ← Reader.many do
      skipSpace
      if ← Reader.takeIf ',' then return some (← item)
      else
        Reader.take close
        return none
    return first :: rest

/-- A member of an object. -/
def readMember (value : Reader Value) : Reader (String × Value) := do
  skipSpace
  let key ← readString
  skipSpace
  Reader.take ':'
  return (key, ← value)

/-- A value in which others are nested less deep than the given number. -/
def readValue : Nat → Reader Value
  | 0 => failure
  | depth + 1 => do
    skipSpace
    match ← Reader.peek? with
    | some '\x22' => return .string (← readString)
    | some '[' =>
      Reader.take '['
      return .array (← readList ']' (readValue depth))
    | some '\x7b' =>
      Reader.take '\x7b'
      return .tableOf (← readList '\x7d' (readMember (readValue depth)))
    | some 't' => Reader.word "true".toList; return .boolean true
    | some 'f' => Reader.word "false".toList; return .boolean false
    | some 'n' => Reader.word "null".toList; return .null
    | _ => readNumber

/-- The value of a text. -/
def read? (text : String) : Option Value :=
  let reader : Reader Value := do
    let value ← readValue (text.length + 1)
    skipSpace
    return value
  reader.whole text.toList

end Stencil.Config.Json
