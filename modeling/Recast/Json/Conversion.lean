import Recast.Json.Basic
import Recast.Value.Basic

/-!
# Documents and untyped values

The two kinds of trees differ in their numbers only.  An integer too large for an untyped value
becomes the nearest float, and a float that no document can hold becomes `null`.
-/

namespace Recast

def Value.ofJsonNumber (number : JsonNumber) : Value :=
  match number.toInt64? with
  | some whole => .integer whole
  | none => .float number.toBinary64

def Json.ofBinary64 (number : Binary64) : Json :=
  match JsonNumber.ofBinary64? number with
  | some finite => .number finite
  | none => .null

mutual

/-- The untyped value of a document. -/
def Value.ofJson : Json → Value
  | .null => .null
  | .bool truth => .bool truth
  | .number number => .ofJsonNumber number
  | .string text => .string text
  | .array items => .array (Value.ofJsonItems items)
  | .object members => .map (Value.ofJsonMembers members)

def Value.ofJsonItems : List Json → List Value
  | [] => []
  | item :: rest => .ofJson item :: Value.ofJsonItems rest

def Value.ofJsonMembers : List (String × Json) → List (String × Value)
  | [] => []
  | (key, member) :: rest => (key, .ofJson member) :: Value.ofJsonMembers rest

end

mutual

/-- The document of an untyped value. -/
def Value.toJson : Value → Json
  | .null => .null
  | .bool truth => .bool truth
  | .integer number => .number (.ofInt64 number)
  | .float number => .ofBinary64 number
  | .string text => .string text
  | .array items => .array (Value.itemsToJson items)
  | .map entries => .object (Value.entriesToJson entries)

def Value.itemsToJson : List Value → List Json
  | [] => []
  | item :: rest => item.toJson :: Value.itemsToJson rest

def Value.entriesToJson : List (String × Value) → List (String × Json)
  | [] => []
  | (key, value) :: rest => (key, value.toJson) :: Value.entriesToJson rest

end

theorem Value.ofJsonItems_eq_map (items : List Json) :
    Value.ofJsonItems items = items.map Value.ofJson := by
  induction items with
  | nil => rfl
  | cons item rest inductionHypothesis =>
      rw [Value.ofJsonItems, inductionHypothesis, List.map_cons]

theorem Value.ofJsonMembers_eq_mapValues (members : Entries Json) :
    Value.ofJsonMembers members = Entries.mapValues Value.ofJson members := by
  induction members with
  | nil => rfl
  | cons member rest inductionHypothesis =>
      rw [Value.ofJsonMembers, inductionHypothesis]
      rfl

theorem Value.itemsToJson_eq_map (items : List Value) :
    Value.itemsToJson items = items.map Value.toJson := by
  induction items with
  | nil => rfl
  | cons item rest inductionHypothesis =>
      rw [Value.itemsToJson, inductionHypothesis, List.map_cons]

theorem Value.entriesToJson_eq_mapValues (entries : Entries Value) :
    Value.entriesToJson entries = Entries.mapValues Value.toJson entries := by
  induction entries with
  | nil => rfl
  | cons entry rest inductionHypothesis =>
      rw [Value.entriesToJson, inductionHypothesis]
      rfl

end Recast
