/-!
# Readers

A reader takes characters off the front of a text and gives what they mean, or fails. Readers are
put together in sequence; `Reader.many` repeats one for as long as it yields something.
-/

namespace Stencil.Config

/-- What reads the front of a text: a meaning and the rest of the text, or nothing. -/
abbrev Reader (α : Type) : Type :=
  StateT (List Char) Option α

namespace Reader

variable {α : Type}

/-- The next character, which stays. -/
def peek? : Reader (Option Char) := fun s => some (s.head?, s)

/-- The next character, taken. -/
def next : Reader Char
  | [] => none
  | c :: rest => some (c, rest)

/-- Takes the next character, which must be the given one. -/
def take (c : Char) : Reader Unit
  | [] => none
  | d :: rest => if d = c then some ((), rest) else none

/-- Takes the next character if it is the given one, and tells whether it was. -/
def takeIf (c : Char) : Reader Bool
  | [] => some (false, [])
  | d :: rest => if d = c then some (true, rest) else some (false, d :: rest)

/-- Takes the given characters, which must come next. -/
def word (w : List Char) : Reader Unit := fun s =>
  if w.isPrefixOf s then some ((), s.drop w.length) else none

/-- Takes the given characters if they come next, and tells whether they did. -/
def wordIf (w : List Char) : Reader Bool := fun s =>
  if w.isPrefixOf s then some (true, s.drop w.length) else some (false, s)

/-- Takes characters for as long as they are of a kind. -/
def run (kind : Char → Bool) : Reader (List Char) := fun s =>
  some (s.takeWhile kind, s.dropWhile kind)

/-- Takes characters of a kind, of which there must be a given number. -/
def exactly (count : Nat) (kind : Char → Bool) : Reader (List Char) := fun s =>
  let taken := s.take count
  if taken.length = count ∧ taken.all kind then some (taken, s.drop count) else none

/-- Whether the text is read to its end. -/
def atEnd : Reader Bool := fun s => some (s.isEmpty, s)

/-- Repeats a step until it yields nothing, at most as often as there are characters in a text. -/
def repeated (step : Reader (Option α)) : List Char → Reader (List α)
  | [] => do
    match ← step with
    | none => return []
    | some _ => failure
  | _ :: bound => do
    match ← step with
    | none => return []
    | some a => return a :: (← repeated step bound)

/-- Repeats a step until it yields nothing. A step that yields something has to take a character,
so the text that is left bounds the repetitions. -/
def many (step : Reader (Option α)) : Reader (List α) := fun s =>
  repeated step s s

/-- What a reader makes of a whole text. -/
def whole (reader : Reader α) (text : List Char) : Option α :=
  match reader text with
  | some (a, []) => some a
  | _ => none

end Reader

/-- The value of a hexadecimal digit. -/
def hexDigit? (c : Char) : Option Nat :=
  if '0' ≤ c ∧ c ≤ '9' then some (c.toNat - 48)
  else if 'a' ≤ c ∧ c ≤ 'f' then some (c.toNat - 87)
  else if 'A' ≤ c ∧ c ≤ 'F' then some (c.toNat - 55)
  else none

/-- Whether a character is a digit from 0 to 9. -/
def isDigit (c : Char) : Bool :=
  '0' ≤ c && c ≤ '9'

/-- The number that digits stand for in a base. -/
def digitsValue (base : Nat) (digits : List Char) : Nat :=
  digits.foldl (fun n c => n * base + (hexDigit? c).getD 0) 0

/-- The number of a given count of hexadecimal digits. -/
def readHex (count : Nat) : Reader Nat := do
  return digitsValue 16 (← Reader.exactly count fun c => (hexDigit? c).isSome)

/-- The character with a code, if there is one. -/
def scalar? (code : Nat) : Option Char :=
  if h : code.isValidChar then some (Char.ofNatAux code h) else none

end Stencil.Config
