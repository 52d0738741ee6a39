import Recast.Entries.Basic
import Recast.Number.Binary64

/-!
# Untyped values

A value is a tree as a document decoder leaves it: scalars, arrays and maps with text keys.  Maps
remember the order of their entries.  `Value.WellFormed` says that no map of the tree has a key
twice.
-/

namespace Recast

/-- An untyped tree.  `null` also stands for the absence of a value. -/
inductive Value where
  | null
  | bool (truth : Bool)
  | integer (number : Int64)
  | float (number : Binary64)
  | string (text : String)
  | array (items : List Value)
  | map (entries : List (String × Value))
  deriving Inhabited

namespace Value

/-- The word for the form of a value in messages. -/
def kind : Value → String
  | .null => "null"
  | .bool _ => "bool"
  | .integer _ => "integer"
  | .float _ => "float"
  | .string _ => "string"
  | .array _ => "array"
  | .map _ => "map"

def isNull : Value → Bool
  | .null => true
  | _ => false

def isMap : Value → Bool
  | .map _ => true
  | _ => false

def isArray : Value → Bool
  | .array _ => true
  | _ => false

def asBool? : Value → Option Bool
  | .bool truth => some truth
  | _ => none

def asInteger? : Value → Option Int64
  | .integer number => some number
  | _ => none

/-- The number as a float; an integer goes to the nearest one. -/
def asFloat? : Value → Option Binary64
  | .float number => some number
  | .integer number => some (.ofInt number.toInt)
  | _ => none

def asString? : Value → Option String
  | .string text => some text
  | _ => none

def asArray? : Value → Option (List Value)
  | .array items => some items
  | _ => none

def asMap? : Value → Option (Entries Value)
  | .map entries => some entries
  | _ => none

mutual

/-- No map in the tree has a key twice. -/
def WellFormed : Value → Prop
  | .array items => ItemsWellFormed items
  | .map entries => (Entries.keys entries).Nodup ∧ EntriesWellFormed entries
  | _ => True

def ItemsWellFormed : List Value → Prop
  | [] => True
  | item :: rest => item.WellFormed ∧ ItemsWellFormed rest

def EntriesWellFormed : List (String × Value) → Prop
  | [] => True
  | (_, value) :: rest => value.WellFormed ∧ EntriesWellFormed rest

end

theorem itemsWellFormed_iff (items : List Value) :
    ItemsWellFormed items ↔ ∀ item ∈ items, item.WellFormed := by
  induction items with
  | nil => simp [ItemsWellFormed]
  | cons item rest inductionHypothesis => simp [ItemsWellFormed, inductionHypothesis]

theorem entriesWellFormed_iff (entries : Entries Value) :
    EntriesWellFormed entries ↔ ∀ entry ∈ entries, entry.2.WellFormed := by
  induction entries with
  | nil => simp [EntriesWellFormed]
  | cons entry rest inductionHypothesis => simp [EntriesWellFormed, inductionHypothesis]

end Value

end Recast
