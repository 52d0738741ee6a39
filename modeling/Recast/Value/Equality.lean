import Recast.Value.Basic

/-!
# Equality of untyped values

Numbers are equal when they are the same number, whichever way each is kept; a NaN is equal to
nothing.  Maps are equal when they have the same keys and equal values under each, in any order.
-/

namespace Recast.Value

mutual

def equal : Value → Value → Bool
  | .null, .null => true
  | .bool left, .bool right => left == right
  | .integer left, .integer right => left == right
  | .float left, .float right => left.equal right
  | .integer left, .float right => right.toInt? == some left.toInt
  | .float left, .integer right => left.toInt? == some right.toInt
  | .string left, .string right => left == right
  | .array left, .array right => equalItems left right
  | .map left, .map right => left.length == right.length && entriesAgree left right
  | _, _ => false

def equalItems : List Value → List Value → Bool
  | [], [] => true
  | left :: leftRest, right :: rightRest => left.equal right && equalItems leftRest rightRest
  | _, _ => false

/-- Whether `others` has an equal value for every entry. -/
def entriesAgree : List (String × Value) → List (String × Value) → Bool
  | [], _ => true
  | (key, value) :: rest, others =>
      (match others.lookup key with
        | some other => value.equal other
        | none => false) &&
      entriesAgree rest others

end

instance : BEq Value :=
  ⟨equal⟩

/-- Equality of maps: as many entries, and equal values under each key. -/
def equalEntries (left right : Entries Value) : Bool :=
  left.length == right.length && entriesAgree left right

end Recast.Value
