import Stencil.Keyed
import Stencil.Number.Binary64

/-!
# Configuration values

What a configuration text means, whatever language it is written in. The entries of a table are in
ascending order of their keys.
-/

namespace Stencil.Config

/-- A value of a configuration. -/
inductive Value where
  | null
  | boolean (b : Bool)
  | integer (n : Int)
  | float (x : Binary64)
  /-- A decimal number beyond the greatest double. -/
  | hugeFloat
  | string (s : String)
  /-- A date, a time or both, as spelt. -/
  | dateTime (spelling : String)
  | array (items : List Value)
  | table (entries : List (String × Value))
deriving Repr

/-- The least integer of 64 bits. -/
def minWord : Int := -9223372036854775808

/-- The greatest natural number of 64 bits. -/
def maxWord : Int := 18446744073709551615

/-- A table of strings and the like: entries in any order, a later one in the stead of an earlier
one with the same key. -/
def Value.tableOf (entries : List (String × Value)) : Value :=
  .table (entries.foldl (fun table entry => Keyed.put entry.1 entry.2 table) [])

end Stencil.Config
