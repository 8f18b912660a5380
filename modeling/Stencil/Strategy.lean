/-!
# Emission strategies

A class can be emitted in two ways: through a checked model of the class, or by joining the texts
of the template as they are.
-/

namespace Stencil

/-- How source text is made from a template. -/
inductive Strategy where
  | structured
  | rawText
deriving Repr, DecidableEq

namespace Strategy

/-- The strategies, in the order in which messages list them. -/
def all : List Strategy :=
  [structured, rawText]

/-- The name of a strategy in configuration and reports. -/
def name : Strategy → String
  | structured => "structured"
  | rawText => "raw-text"

/-- The strategy of a configuration that names none. -/
def default : Strategy :=
  structured

/-- The words that choose each strategy on the command line, in lower case. -/
def spellings : List (String × Strategy) :=
  [("structured", structured), ("ast", structured), ("raw-text", rawText), ("raw_text", rawText),
    ("rawtext", rawText), ("raw", rawText)]

/-- What is said of a word that chooses no strategy. -/
def unknownMessage (word : String) : String :=
  s!"unknown strategy '{word}', expected 'structured' or 'raw-text'"

/-- The strategy that a word chooses, upper and lower case alike. Only the letters A to Z need
folding: of all other characters, just two have a letter of a to z in their lower case, the Kelvin
sign (`k`) and the dotted capital I (`i`), and no spelling has either letter. -/
def ofWord? (word : String) : Option Strategy :=
  spellings.lookup (word.map Char.toLower)

end Strategy

end Stencil
