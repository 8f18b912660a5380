/-!
# Modifiers

The modifiers of a class or a member, and sets of them. Source text lists a set in canonical
order, which is the order of `Modifier.all`: `public static final`, never `final static public`.
-/

namespace Stencil

/-- A modifier of a generated class or member. -/
inductive Modifier where
  | publicAccess
  | protectedAccess
  | privateAccess
  | abstract
  | static
  | final
  | transient
  | volatile
  | synchronized
deriving Repr, DecidableEq

namespace Modifier

/-- Every modifier, in canonical order. -/
def all : List Modifier :=
  [publicAccess, protectedAccess, privateAccess, abstract, static, final, transient, volatile,
    synchronized]

/-- The word that stands for a modifier in source text and in configuration. -/
def keyword : Modifier → String
  | publicAccess => "public"
  | protectedAccess => "protected"
  | privateAccess => "private"
  | abstract => "abstract"
  | static => "static"
  | final => "final"
  | transient => "transient"
  | volatile => "volatile"
  | synchronized => "synchronized"

/-- The place of a modifier in canonical order. -/
def rank : Modifier → Nat
  | publicAccess => 0
  | protectedAccess => 1
  | privateAccess => 2
  | abstract => 3
  | static => 4
  | final => 5
  | transient => 6
  | volatile => 7
  | synchronized => 8

/-- Whether a modifier decides who may see what it stands before. -/
def isAccess : Modifier → Bool
  | publicAccess | protectedAccess | privateAccess => true
  | _ => false

/-- The modifier that a word stands for. Case matters. -/
def ofKeyword? (word : String) : Option Modifier :=
  all.find? (·.keyword == word)

/-- What is said of a word that stands for no modifier. -/
def unknownMessage (word : String) : String :=
  s!"unknown modifier '{word}'"

@[simp] theorem mem_all (m : Modifier) : m ∈ all := by
  cases m <;> decide

theorem pairwise_rank_all : all.Pairwise (·.rank < ·.rank) := by
  decide

@[simp] theorem ofKeyword?_keyword (m : Modifier) : ofKeyword? m.keyword = some m := by
  cases m <;> rfl

end Modifier

/-- A set of modifiers, as the list of its members in canonical order. -/
structure ModifierSet where
  toList : List Modifier
  sorted : toList.Pairwise (·.rank < ·.rank)
deriving DecidableEq

namespace ModifierSet

/-- The set of the modifiers in a list, however they are ordered or repeated there. -/
def ofList (ms : List Modifier) : ModifierSet :=
  ⟨Modifier.all.filter (ms.contains ·), Modifier.pairwise_rank_all.filter _⟩

/-- The set without members. -/
def empty : ModifierSet :=
  ofList []

/-- A set with the modifiers of a list besides its own. -/
def insertMany (s : ModifierSet) (ms : List Modifier) : ModifierSet :=
  ofList (s.toList ++ ms)

@[simp] theorem mem_toList_ofList {m : Modifier} {ms : List Modifier} :
    m ∈ (ofList ms).toList ↔ m ∈ ms := by
  simp [ofList]

/-- Two lists with the same members make the same set. -/
theorem ofList_congr {ms ns : List Modifier} (h : ∀ m, m ∈ ms ↔ m ∈ ns) :
    ofList ms = ofList ns := by
  simp only [ofList, mk.injEq]
  exact List.filter_congr fun m _ => by simp [h m]

/-- The words that stand before a declaration: each keyword, followed by a space. -/
def text (s : ModifierSet) : String :=
  String.join (s.toList.map fun m => m.keyword ++ " ")

end ModifierSet

end Stencil
