import Stencil.Config.Value

/-!
# Tables in the making

The sections of a TOML text may come in almost any order, and a table may be meant by the keys that
lead through it before it has a section of its own. So a table in the making remembers of each of
its parts how that came about, and `insert?` and `openSection?` refuse what would define anything
twice.
-/

namespace Stencil.Config.Toml

/-- How a table came about: by a header of its own, by headers of tables inside it, or by dotted
keys. -/
inductive Origin where
  | header
  | implied
  | dotted
deriving Repr, DecidableEq

/-- What stands under a key while a text is read: a value, a table, or the tables that sections of
one name have made so far. -/
inductive Item where
  | value (v : Value)
  | table (origin : Origin) (entries : List (String × Item))
  | tables (elements : List (List (String × Item)))
deriving Repr

/-- The entries of a table in the making. -/
abbrev Entries : Type :=
  Keyed Item

mutual

/-- What an item means when the text is read. -/
def Item.toValue : Item → Value
  | .value v => v
  | .table _ entries => .table (entriesValue entries)
  | .tables elements => .array (elementsValue elements)
termination_by structural i => i

/-- What entries mean when the text is read. -/
def entriesValue : List (String × Item) → List (String × Value)
  | [] => []
  | (key, item) :: rest => (key, item.toValue) :: entriesValue rest
termination_by structural es => es

/-- What the tables of several sections mean when the text is read. -/
def elementsValue : List (List (String × Item)) → List Value
  | [] => []
  | entries :: rest => .table (entriesValue entries) :: elementsValue rest
termination_by structural es => es

end

/-- Changes the table at the end of a path, and makes the tables on the way that are missing. The
last of the tables of several sections stands for all of them. A path of dotted keys may not enter
a table with a header of its own. -/
def changeAt? (dotted : Bool) (change : Origin → Entries → Option Entries) :
    List String → Origin → Entries → Option Entries
  | [], origin, entries => change origin entries
  | key :: path, _, entries =>
    match entries.lookup key with
    | none => do
      let origin := if dotted then .dotted else .implied
      return entries.put key (.table origin (← changeAt? dotted change path origin []))
    | some (.value _) => none
    | some (.table origin inner) => do
      guard (!(dotted && origin == .header))
      return entries.put key (.table origin (← changeAt? dotted change path origin inner))
    | some (.tables elements) => do
      let last ← elements.getLast?
      let changed ← changeAt? dotted change path .header last
      return entries.put key (.tables (elements.dropLast ++ [changed]))

/-- A line of a table: a value under a key, behind the dotted keys that lead to it. -/
structure Assignment where
  path : List String
  key : String
  value : Value
deriving Repr

/-- The table with one more line. The key must be new, and dotted keys may add to nothing but what
dotted keys have made. -/
def insert? (entries : Entries) (a : Assignment) : Option Entries :=
  let change (origin : Origin) (table : Entries) : Option Entries := do
    guard ((origin == .dotted) == !a.path.isEmpty)
    guard (table.lookup a.key).isNone
    return table.put a.key (.value a.value)
  changeAt? true change a.path .header entries

/-- The table with more lines. -/
def insertAll? (entries : Entries) (lines : List Assignment) : Option Entries :=
  lines.foldlM insert? entries

/-- A table of some lines as a value. -/
def tableOf? (lines : List Assignment) : Option Value :=
  (insertAll? [] lines).map fun entries => .table (entriesValue entries)

/-- A section: a header and the lines below it. Its table is one of its own, or one more element
under its key. -/
structure Section where
  path : List String
  key : String
  isElement : Bool
  lines : List Assignment
deriving Repr

/-- The table with one more section. Only a table that headers have merely implied may get a
section later. -/
def addSection? (root : Entries) (s : Section) : Option Entries :=
  let change (_ : Origin) (table : Entries) : Option Entries := do
    if s.isElement then
      let earlier ←
        match table.lookup s.key with
        | none => some []
        | some (.tables elements) => some elements
        | some _ => none
      return table.put s.key (.tables (earlier ++ [← insertAll? [] s.lines]))
    else
      let implied ←
        match table.lookup s.key with
        | none => some []
        | some (.table .implied entries) => some entries
        | some _ => none
      return table.put s.key (.table .header (← insertAll? implied s.lines))
  changeAt? false change s.path .header root

/-- A text as it is laid out: the lines before the first header, and the sections. -/
structure Document where
  lines : List Assignment
  sections : List Section
deriving Repr

/-- What a document means, unless it defines anything twice. -/
def Document.value? (d : Document) : Option Value := do
  let root ← insertAll? [] d.lines
  return .table (entriesValue (← d.sections.foldlM addSection? root))

end Stencil.Config.Toml
