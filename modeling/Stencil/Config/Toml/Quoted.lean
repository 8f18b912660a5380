import Stencil.Config.Reader

/-!
# TOML strings and keys

Strings stand in double quotes, where a backslash escapes, or in single quotes, where nothing does;
three quotes open a string that may run over several lines. Keys are bare words or strings of one
line.
-/

namespace Stencil.Config.Toml

/-- Whether a character may stand in strings and comments as itself: no control character but the
tab. -/
def isPlain (c : Char) : Bool :=
  c == '\t' || 0x20 ≤ c.toNat && c.toNat != 0x7F

/-- Whether a character is a blank between tokens. -/
def isBlank (c : Char) : Bool :=
  c == ' ' || c == '\t'

/-- Skips blanks. -/
def skipBlanks : Reader Unit := do
  let _ ← Reader.run isBlank

/-- Takes the end of a line if it comes next, and tells whether it did. -/
def newlineIf : Reader Bool := do
  if ← Reader.takeIf '\n' then return true else Reader.wordIf ['\r', '\n']

/-- The characters that stand for others behind a backslash. -/
def shortEscapes : List (Char × Char) :=
  [('b', '\x08'), ('t', '\t'), ('n', '\n'), ('f', '\x0c'), ('r', '\r'), ('e', '\x1b'),
    ('\x22', '\x22'), ('\\', '\\')]

/-- The character that an escape stands for, from behind the backslash on. -/
def readEscape : Reader Char := do
  match ← Reader.next with
  | 'x' => liftM (scalar? (← readHex 2))
  | 'u' => liftM (scalar? (← readHex 4))
  | 'U' => liftM (scalar? (← readHex 8))
  | c => liftM (shortEscapes.lookup c)

/-! ### Strings of one line -/

/-- One character of a string in double quotes, or nothing at its end. -/
def readBasicChar : Reader (Option Char) := do
  let c ← Reader.next
  if c == '\x22' then return none
  else if c == '\\' then return some (← readEscape)
  else if isPlain c then return some c
  else failure

/-- A string in double quotes. -/
def readBasic : Reader (List Char) := do
  Reader.take '\x22'
  Reader.many readBasicChar

/-- A string in single quotes. -/
def readLiteral : Reader (List Char) := do
  Reader.take '\x27'
  let content ← Reader.run fun c => isPlain c && c != '\x27'
  Reader.take '\x27'
  return content

/-! ### Strings of several lines -/

/-- Skips blanks and ends of lines. -/
def skipLayout : Reader Unit := do
  let _ ← Reader.many do
    skipBlanks
    if ← newlineIf then return some () else return none

/-- What a backslash stands for in a string of several lines, from behind it on: nothing at the end
of a line, where it takes away all layout up to the next character. -/
def readLongEscape : Reader (List Char) := fun s =>
  match (do skipBlanks; newlineIf : Reader Bool) s with
  | some (true, rest) => (do skipLayout; return [] : Reader (List Char)) rest
  | _ => (do return [← readEscape] : Reader (List Char)) s

/-- The next characters of a string of several lines, or nothing before the three quotes that
end it. -/
def readLongChars (quote : Char) : Reader (Option (List Char)) := fun s =>
  match s with
  | [] => none
  | '\r' :: '\n' :: rest => some (some ['\r', '\n'], rest)
  | c :: rest =>
    if List.isPrefixOf [quote, quote, quote] s then some (none, s)
    else if c = '\\' ∧ quote = '\x22' then (some <$> readLongEscape : Reader _) rest
    else if c = '\n' ∨ isPlain c then some (some [c], rest)
    else none

/-- A string of several lines. The end of a line right behind its opening does not count. Up to two
quotes before the three that end it belong to it. -/
def readLong (quote : Char) : Reader (List Char) := do
  Reader.word [quote, quote, quote]
  let _ ← newlineIf
  let content ← Reader.many (readLongChars quote)
  let quotes ← Reader.run (· == quote)
  guard (quotes.length ≤ 5)
  return content.flatten ++ quotes.drop 3

/-- A string. -/
def readString : Reader String := fun s =>
  let reader : Reader (List Char) :=
    if List.isPrefixOf ['\x22', '\x22', '\x22'] s then readLong '\x22'
    else if List.isPrefixOf ['\x27', '\x27', '\x27'] s then readLong '\x27'
    else if List.isPrefixOf ['\x22'] s then readBasic
    else readLiteral
  (String.ofList <$> reader : Reader String) s

/-! ### Keys -/

/-- Whether a character may stand in a bare key. -/
def isBareKeyChar (c : Char) : Bool :=
  c.isAlphanum || c == '_' || c == '-'

/-- A single key. -/
def readKey : Reader String := do
  match ← Reader.peek? with
  | some '\x22' => return String.ofList (← readBasic)
  | some '\x27' => return String.ofList (← readLiteral)
  | _ =>
    let key ← Reader.run isBareKeyChar
    guard (!key.isEmpty)
    return String.ofList key

/-- How many keys may stand in one path. -/
def maxKeys : Nat :=
  80

/-- Keys with dots between them, and blanks around the dots: those before the last, and the
last. -/
def readPath : Reader (List String × String) := do
  let first ← readKey
  let others ← Reader.many do
    skipBlanks
    if ← Reader.takeIf '.' then
      skipBlanks
      return some (← readKey)
    else return none
  guard (others.length < maxKeys)
  let path := first :: others
  return (path.dropLast, path.getLastD first)

end Stencil.Config.Toml
