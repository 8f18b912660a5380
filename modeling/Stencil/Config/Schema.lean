import Stencil.Config.Value
import Stencil.Text.Quoted

/-!
# Reading records from values

A schema says how a record is read from a configuration value: its fields by key, which of them
have to be there, and whether further keys are refused. A record is a table of its fields, or an
array of them in the order of their listing.

Of several mistakes in a table the first in the order of its keys is told; that a field is missing
is told only if there is no other mistake.
-/

namespace Stencil.Config

/-- The language that a value was written in. The two differ in what may stand for a word, in
whether an array may have more items than a record has fields, and in how messages write a
float. -/
inductive Format where
  | toml
  | json
deriving Repr, DecidableEq

/-- How messages write a float. -/
def Format.floatStyle : Format → FloatStyle
  | .toml => ⟨.away, false⟩
  | .json => ⟨.toEven, true⟩

/-- The least integer of 128 bits. -/
def minWide : Int := -170141183460469231731687303715884105728

/-- The greatest natural number of 128 bits. -/
def maxWide : Int := 340282366920938463463374607431768211455

/-- Whether an integer is one of 128 bits, signed or not. -/
def fits (n : Int) : Bool :=
  minWide ≤ n && n ≤ maxWide

/-- What a value is, as messages tell it. -/
inductive Shape where
  | null
  | boolean (b : Bool)
  | integer (n : Int)
  | float (x : Binary64)
  | string (s : String)
  | sequence
  | map
deriving Repr, DecidableEq

namespace Shape

/-- How messages call an integer: beyond 64 bits its width is told. -/
def integerText (n : Int) : String :=
  if minWord ≤ n ∧ n ≤ maxWord then s!"integer `{n}`"
  else if minWide ≤ n ∧ n < -minWide then s!"integer `{n}` as i128"
  else s!"integer `{n}` as u128"

/-- The shape in words. -/
def text (format : Format) : Shape → String
  | null => "null"
  | boolean b => s!"boolean `{b}`"
  | integer n => integerText n
  | float x => s!"floating point `{x.text format.floatStyle}`"
  | string s => "string " ++ Text.quoted s
  | sequence => "sequence"
  | map => "map"

end Shape

/-- What was to stand in the place of a value. -/
inductive Expected where
  | string
  | sequence
  | record (name : String)
  | stringOrMap
  | unit
deriving Repr, DecidableEq

/-- The expectation in words. -/
def Expected.text : Expected → String
  | string => "a string"
  | sequence => "a sequence"
  | record name => "struct " ++ name
  | stringOrMap => "string or map"
  | unit => "unit"

/-- Why a value is not what was to be read. -/
inductive DecodeError where
  | wrongType (found : Shape) (expected : Expected)
  | integerOverflow
  | floatOverflow
  | unknownField (key : String) (known : List String)
  | missingField (key : String)
  | unknownVariant (word : String) (known : List String)
  | tooShort (given : Nat) (record : String) (fields : Nat)
  | tooLong (given : Nat)
  /-- A word was to be read from neither a string nor a table. -/
  | noWord
  /-- A word was to be read from a table without keys. -/
  | noKey
  /-- A word was to be read from a table with several keys. -/
  | severalKeys
  /-- A word was to be read from an object that has not one key. -/
  | notSingleKey
  | nonemptyTable
  | nonemptyArray
  | notATable (found : String)
deriving Repr, DecidableEq

/-- A list of names for a message. -/
def oneOf : List String → String
  | [a] => s!"`{a}`"
  | [a, b] => s!"`{a}` or `{b}`"
  | names => "one of " ++ ", ".intercalate (names.map fun name => s!"`{name}`")

/-- The error in words. -/
def DecodeError.message (format : Format) : DecodeError → String
  | wrongType found expected => s!"invalid type: {found.text format}, expected {expected.text}"
  | integerOverflow => "integer number overflowed"
  | floatOverflow => "floating-point number overflowed"
  | unknownField key known => s!"unknown field `{key}`, expected {oneOf known}"
  | missingField key => s!"missing field `{key}`"
  | unknownVariant word known => s!"unknown variant `{word}`, expected {oneOf known}"
  | tooShort given record fields =>
    s!"invalid length {given}, expected struct {record} with {fields} element" ++
      (if fields = 1 then "" else "s")
  | tooLong given => s!"invalid length {given}, expected fewer elements in array"
  | noWord => "wanted string or table"
  | noKey => "wanted exactly 1 element, found 0 elements"
  | severalKeys => "wanted exactly 1 element, more than 1 element"
  | notSingleKey => "invalid value: map, expected map with a single key"
  | nonemptyTable => "expected empty table"
  | nonemptyArray => "expected empty array"
  | notATable found => "expected table, found " ++ found

namespace Value

/-- The shape of a value, which a number too large to hold does not have. -/
def shape : Value → Except DecodeError Shape
  | null => .ok .null
  | boolean b => .ok (.boolean b)
  | integer n =>
    if fits n then .ok (.integer n) else .error .integerOverflow
  | float x => .ok (.float x)
  | hugeFloat => .error .floatOverflow
  | string s => .ok (.string s)
  | array _ => .ok .sequence
  | table _ | dateTime _ => .ok .map

/-- The error of a value that stands where something else was expected. -/
def mismatch (v : Value) (expected : Expected) : DecodeError :=
  match v.shape with
  | .ok shape => .wrongType shape expected
  | .error e => e

/-- The name of the type of a value that is no table. -/
def typeName : Value → String
  | null => "null"
  | boolean _ => "boolean"
  | integer _ => "integer"
  | float _ | hugeFloat => "float"
  | string _ => "string"
  | dateTime _ => "datetime"
  | array _ => "array"
  | table _ => "table"

mutual

/-- Walks through a value that nobody asks for. Only a number too large to hold is noticed. -/
def skip : Value → Except DecodeError Unit
  | array items => skipAll items
  | table entries => skipEntries entries
  | hugeFloat => .error .floatOverflow
  | integer n =>
    if fits n then .ok () else .error .integerOverflow
  | _ => .ok ()
termination_by structural v => v

/-- Walks through values that nobody asks for. -/
def skipAll : List Value → Except DecodeError Unit
  | [] => .ok ()
  | v :: rest => do
    v.skip
    skipAll rest
termination_by structural vs => vs

/-- Walks through entries that nobody asks for. -/
def skipEntries : List (String × Value) → Except DecodeError Unit
  | [] => .ok ()
  | (_, v) :: rest => do
    v.skip
    skipEntries rest
termination_by structural es => es

end

/-- A string. -/
def readString : Value → Except DecodeError String
  | string s => .ok s
  | v => .error (v.mismatch .string)

/-- A string, or nothing for null. -/
def readString? : Value → Except DecodeError (Option String)
  | null => .ok none
  | v => v.readString.map some

/-- A list of things that are read alike. -/
def readList {α : Type} (item : Value → Except DecodeError α) :
    Value → Except DecodeError (List α)
  | array items => items.mapM item
  | v => .error (v.mismatch .sequence)

/-- One of the things that words stand for. -/
def ofWord {α : Type} (words : List (String × α)) (word : String) : Except DecodeError α :=
  match words.lookup word with
  | some a => .ok a
  | none => .error (.unknownVariant word (words.map (·.1)))

/-- Refuses what may not stand behind a word that is the only key of a table. -/
def checkNothing : Format → Value → Except DecodeError Unit
  | .toml, table [] => .ok ()
  | .toml, table _ => .error .nonemptyTable
  | .toml, array [] => .ok ()
  | .toml, array _ => .error .nonemptyArray
  | .toml, v => .error (.notATable v.typeName)
  | .json, null => .ok ()
  | .json, v => .error (v.mismatch .unit)

/-- One of the things that words stand for: a string, or a table whose only key is the word. -/
def readWord {α : Type} (words : List (String × α)) (format : Format) :
    Value → Except DecodeError α
  | string word => ofWord words word
  | table [(word, nothing)] => do
    let a ← ofWord words word
    checkNothing format nothing
    return a
  | table entries =>
    .error (match format with
      | .json => .notSingleKey
      | .toml => if entries.isEmpty then .noKey else .severalKeys)
  | v =>
    .error (match format with
      | .json => v.mismatch .stringOrMap
      | .toml => .noWord)

end Value

/-- A field of a record: its key, whether it has to be there, and how it is read into a record that
is otherwise complete. -/
structure FieldSchema (ρ : Type) where
  key : String
  required : Bool
  read : Value → ρ → Except DecodeError ρ

/-- How a record is read. -/
structure Schema (ρ : Type) where
  /-- What messages call such a record. -/
  name : String
  fields : List (FieldSchema ρ)
  /-- The record before any field is read. -/
  blank : ρ
  /-- Whether keys that are not listed are refused. -/
  closed : Bool

namespace Schema

variable {ρ : Type}

/-- The keys of the fields. -/
def keys (schema : Schema ρ) : List String :=
  schema.fields.map (·.key)

/-- A record with one entry of a table read. -/
def readEntry (schema : Schema ρ) (record : ρ) (entry : String × Value) :
    Except DecodeError ρ :=
  match schema.fields.find? (·.key == entry.1) with
  | some field => field.read entry.2 record
  | none =>
    if schema.closed then .error (.unknownField entry.1 schema.keys)
    else do
      entry.2.skip
      return record

/-- The first field that has to be there and is not. -/
def missing? (schema : Schema ρ) (present : List String) : Option String :=
  (schema.fields.find? fun field => field.required && !present.contains field.key).map (·.key)

/-- A record from the entries of a table. -/
def readEntries (schema : Schema ρ) (entries : List (String × Value)) : Except DecodeError ρ := do
  let record ← entries.foldlM schema.readEntry schema.blank
  match schema.missing? (entries.map (·.1)) with
  | some key => throw (.missingField key)
  | none => return record

/-- A record with the remaining fields read from the remaining items. -/
def readItems (schema : Schema ρ) (given : Nat) :
    List (FieldSchema ρ) → List Value → ρ → Except DecodeError ρ
  | [], _, record => .ok record
  | field :: fields, [], record =>
    if field.required then .error (.tooShort given schema.name schema.fields.length)
    else readItems schema given fields [] record
  | field :: fields, item :: items, record => do
    readItems schema given fields items (← field.read item record)

/-- The key under which a record finds a date or a time. -/
def dateTimeKey : String :=
  "$__toml_private_datetime"

/-- A record from a value. Items beyond the last field are refused in JSON only. -/
def read (schema : Schema ρ) (format : Format) : Value → Except DecodeError ρ
  | .table entries => schema.readEntries entries
  | .dateTime spelling => schema.readEntries [(dateTimeKey, .string spelling)]
  | .array items => do
    let record ← schema.readItems items.length schema.fields items schema.blank
    if format = .json ∧ items.length > schema.fields.length then throw (.tooLong items.length)
    return record
  | v => .error (v.mismatch (.record schema.name))

end Schema

end Stencil.Config
