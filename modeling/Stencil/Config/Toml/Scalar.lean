import Stencil.Config.Reader
import Stencil.Config.Value

/-!
# TOML scalars without quotes

Booleans, numbers, dates and times. All of them are written without blanks, save that a blank may
stand between a date and a time; so a scalar is cut out of the text first, and `scalarOf?` says
then what it is.
-/

namespace Stencil.Config.Toml

/-- Digits of a kind in groups with single underscores between them, taken together. -/
def ungrouped? (kind : Char → Bool) (s : List Char) : Option (List Char) :=
  let groups := s.splitOn '_'
  if groups.all fun group => !group.isEmpty && group.all kind then some groups.flatten else none

/-- Whether digits are how a number before a point is written: no zero leads others. -/
def isPlainWhole (digits : List Char) : Bool :=
  digits.head? != some '0' || digits.length == 1

/-- A sign, if there is one, and what follows it. -/
def splitSign : List Char → Option Char × List Char
  | '+' :: rest => (some '+', rest)
  | '-' :: rest => (some '-', rest)
  | rest => (none, rest)

/-! ### Numbers -/

/-- An integer in a base that a mark announces. Signs are for base ten only. -/
def basedInteger? (s : List Char) : Option Int :=
  let digits (base : Nat) (kind : Char → Bool) (rest : List Char) : Option Int :=
    (ungrouped? kind rest).map fun ds => (digitsValue base ds : Int)
  match s with
  | '0' :: 'x' :: rest => digits 16 (fun c => (hexDigit? c).isSome) rest
  | '0' :: 'o' :: rest => digits 8 (fun c => '0' ≤ c && c ≤ '7') rest
  | '0' :: 'b' :: rest => digits 2 (fun c => c == '0' || c == '1') rest
  | _ => none

/-- An integer in base ten. -/
def decimalInteger? (s : List Char) : Option Int := do
  let (sign, rest) := splitSign s
  let digits ← ungrouped? isDigit rest
  guard (isPlainWhole digits)
  let n : Int := digitsValue 10 digits
  return if sign = some '-' then -n else n

/-- A power of ten behind the mark of an exponent. -/
def power? (s : List Char) : Option Int := do
  let (sign, rest) := splitSign s
  let n : Int := digitsValue 10 (← ungrouped? isDigit rest)
  return if sign = some '-' then -n else n

/-- A decimal number with a point, an exponent or both. -/
def decimal? (s : List Char) : Option Value := do
  let (sign, rest) := splitSign s
  let isMark (c : Char) : Bool := c == 'e' || c == 'E'
  let mantissa := rest.takeWhile (!isMark ·)
  let exponent := rest.dropWhile (!isMark ·)
  let whole ← ungrouped? isDigit (mantissa.takeWhile (· != '.'))
  guard (isPlainWhole whole)
  let fraction ←
    match mantissa.dropWhile (· != '.') with
    | [] => some []
    | _ :: rest => ungrouped? isDigit rest
  guard (!fraction.isEmpty || !exponent.isEmpty)
  let power ←
    match exponent with
    | [] => some 0
    | _ :: rest => power? rest
  return match Binary64.ofDecimal? (sign = some '-') (digitsValue 10 (whole ++ fraction))
      (power - fraction.length) with
    | some x => .float x
    | none => .hugeFloat

/-- Infinity or the number that is none, by its name. -/
def namedFloat? (s : List Char) : Option Value :=
  let (sign, rest) := splitSign s
  if rest = ['i', 'n', 'f'] then some (.float (.infinite (sign = some '-')))
  else if rest = ['n', 'a', 'n'] then some (.float .nan)
  else none

/-! ### Dates and times -/

/-- The number of days in a month of a year. -/
def daysIn (year month : Nat) : Nat :=
  if month = 2 then
    if year % 4 = 0 ∧ (year % 100 ≠ 0 ∨ year % 400 = 0) then 29 else 28
  else if month ∈ [4, 6, 9, 11] then 30
  else 31

/-- A number of a given count of digits. -/
def readCount (count : Nat) : Reader Nat := do
  return digitsValue 10 (← Reader.exactly count isDigit)

/-- A date that is in the calendar. -/
def readDate : Reader Unit := do
  let year ← readCount 4
  Reader.take '-'
  let month ← readCount 2
  Reader.take '-'
  let day ← readCount 2
  guard (1 ≤ month ∧ month ≤ 12 ∧ 1 ≤ day ∧ day ≤ daysIn year month)

/-- A time of day. The seconds may be left out, and may have a fraction. -/
def readTime : Reader Unit := do
  let hour ← readCount 2
  Reader.take ':'
  let minute ← readCount 2
  guard (hour ≤ 23 ∧ minute ≤ 59)
  if ← Reader.takeIf ':' then
    guard ((← readCount 2) ≤ 60)
    if ← Reader.takeIf '.' then
      guard (!(← Reader.run isDigit).isEmpty)

/-- A distance from universal time, if there is one. -/
def readOffset : Reader Unit := do
  match ← Reader.peek? with
  | some 'Z' | some 'z' => let _ ← Reader.next
  | some '+' | some '-' =>
    let _ ← Reader.next
    let hours ← readCount 2
    Reader.take ':'
    let minutes ← readCount 2
    guard (hours ≤ 23 ∧ minutes ≤ 59)
  | _ => return

/-- A date, with or without a time behind it. -/
def readDateTime : Reader Unit := do
  readDate
  match ← Reader.peek? with
  | some 'T' | some 't' | some ' ' =>
    let _ ← Reader.next
    readTime
    readOffset
  | _ => return

/-- Whether a word is a date, a time or both. -/
def isDateTime (s : List Char) : Bool :=
  (readDateTime.whole s).isSome || (readTime.whole s).isSome

/-- Whether a word is a date alone. -/
def isDate (s : List Char) : Bool :=
  (readDate.whole s).isSome

/-! ### Words -/

/-- What a word stands for. -/
def scalarOf? (s : List Char) : Option Value :=
  if s = "true".toList then some (.boolean true)
  else if s = "false".toList then some (.boolean false)
  else if isDateTime s then some (.dateTime (String.ofList s))
  else
    (basedInteger? s).map Value.integer <|> (decimalInteger? s).map Value.integer <|>
      namedFloat? s <|> decimal? s

/-- The characters of scalars. -/
def isScalarChar (c : Char) : Bool :=
  c.isAlphanum || c == '_' || c == '+' || c == '-' || c == '.' || c == ':'

/-- A scalar. Behind a date it goes on over a blank if a digit follows that. -/
def readScalar : Reader Value := do
  let word ← Reader.run isScalarChar
  let rest ← get
  match rest with
  | ' ' :: c :: _ =>
    if isDate word && isDigit c then
      let _ ← Reader.next
      liftM (scalarOf? (word ++ ' ' :: (← Reader.run isScalarChar)))
    else liftM (scalarOf? word)
  | _ => liftM (scalarOf? word)

end Stencil.Config.Toml
