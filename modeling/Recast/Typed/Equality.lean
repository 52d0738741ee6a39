import Recast.Typed.Basic
import Recast.Value.Equality

/-!
# Equality of typed values

Sequences and sets are equal item by item, mappings in any order.  Records are equal when their
types have the same name and when their values and kept entries are equal, also in any order;
the key order of their inputs does not count.  Custom values are equal when their types have the
same name and what they hold is equal.
-/

namespace Recast

namespace Typed

variable {Payload : Type} [BEq Payload]

def extrasEqual : Option (List (String × Value)) → Option (List (String × Value)) → Bool
  | none, none => true
  | some left, some right => Value.equalEntries left right
  | _, _ => false

mutual

def equal : Typed Payload → Typed Payload → Bool
  | .missing, .missing => true
  | .bool left, .bool right => left == right
  | .int left, .int right => left == right
  | .float left, .float right => left.equal right
  | .str left, .str right => left == right
  | .sequence left, .sequence right => equalItems left right
  | .set left, .set right => equalItems left right
  | .mapping left, .mapping right => left.length == right.length && entriesAgree left right
  | .record ⟨recordType, values, extras?, _⟩, .record other =>
      recordType.name == other.recordType.name &&
        (values.length == other.values.length && entriesAgree values other.values) &&
        extrasEqual extras? other.extras?
  | .raw left, .raw right => left == right
  | .custom leftName left, .custom rightName right => leftName == rightName && left == right
  | _, _ => false

def equalItems : List (Typed Payload) → List (Typed Payload) → Bool
  | [], [] => true
  | left :: leftRest, right :: rightRest => left.equal right && equalItems leftRest rightRest
  | _, _ => false

/-- Whether `others` has an equal value for every entry. -/
def entriesAgree :
    List (String × Typed Payload) → List (String × Typed Payload) → Bool
  | [], _ => true
  | (key, value) :: rest, others =>
      (match others.lookup key with
        | some other => value.equal other
        | none => false) &&
      entriesAgree rest others

end

instance : BEq (Typed Payload) :=
  ⟨equal⟩

/-- Whether no item equals a later one. -/
def allDistinct : List (Typed Payload) → Bool
  | [] => true
  | first :: rest => (rest.all fun later => !(first == later)) && allDistinct rest

/-- The items that do not equal one kept before. -/
def keepDistinct (kept : List (Typed Payload)) : List (Typed Payload) → List (Typed Payload)
  | [] => kept
  | first :: rest =>
      if kept.any fun earlier => earlier == first then
        keepDistinct kept rest
      else
        keepDistinct (kept ++ [first]) rest

end Typed

variable {Payload : Type} [BEq Payload]

/-- Defaults are equal when both their declared and their typed forms are. -/
instance : BEq (FieldDefault (Typed Payload)) :=
  ⟨fun left right => left.raw == right.raw && left.typed == right.typed⟩

/-- Fields are equal in name, type, default and validator. -/
instance : BEq (Field (Typed Payload)) :=
  ⟨fun left right =>
    left.name == right.name && left.type == right.type && left.default? == right.default? &&
      left.validator? == right.validator?⟩

end Recast
