import Stencil.Config.Codec
import Stencil.Config.Toml.Document
import Stencil.Fault
import Stencil.Manifest.Problem

/-!
# Manifests and feeds from TOML texts

Reads the text of a manifest or a feed. A document that cannot be used is told by its name, for the
reader of the message, and by what is wrong with it.
-/

namespace Stencil

/-- Why a document cannot be used. -/
inductive ConfigError where
  /-- The file cannot be read. -/
  | unreadable (path : String) (fault : Fault)
  /-- The text is no TOML, or not what the document has to say. -/
  | malformed (file : String) (detail : Option Config.DecodeError)
  /-- The manifest makes no sense. -/
  | rejected (problem : Problem) (labels : List Label)
deriving Repr, DecidableEq

namespace ConfigError

/-- The error in words. -/
def message : ConfigError → String
  | unreadable path _ => s!"cannot read '{path}'"
  | malformed file _ => s!"'{file}' is not valid TOML for this file"
  | rejected problem _ => problem.message

/-- The identifier of the sort of error. -/
def code? : ConfigError → Option String
  | unreadable _ _ => none
  | malformed _ _ => some "etch::syntax"
  | rejected problem _ => some problem.code

/-- What to do about the error. -/
def help? : ConfigError → Option String
  | unreadable _ _ => some "'etch init' writes a starter etch.toml and rounds.toml"
  | malformed _ _ => none
  | rejected problem _ => problem.help?

end ConfigError

/-- Reads a record from a TOML text. -/
def readDocument {ρ : Type} (schema : Config.Schema ρ) (file text : String) :
    Except ConfigError ρ :=
  match Config.Toml.read? text with
  | none => .error (.malformed file none)
  | some value => (schema.read .toml value).mapError fun e => .malformed file (some e)

/-- Refuses a manifest with a problem, whose places are looked for in a text. -/
def Manifest.validate (m : Manifest) (text : String) : Except ConfigError Unit :=
  match m.problem? with
  | some problem => .error (.rejected problem (problem.labels text))
  | none => .ok ()

/-- Reads a manifest. -/
def Manifest.parse (file text : String) : Except ConfigError Manifest := do
  let m ← readDocument (Config.manifestSchema .toml) file text
  m.validate text
  return m

/-- Reads a feed. -/
def Feed.parse (file text : String) : Except ConfigError Feed :=
  readDocument (Config.feedSchema .toml) file text

end Stencil
