import Recast.Validator
import Recast.Value.Basic

/-!
# Record types and records

A record type lists named fields, each with a type and maybe a default.  A record holds one value
for each field; a record of an open type also keeps the input keys that the type does not declare.
What the values of fields are is left open here: `α` stands for them.
-/

namespace Recast

/-- A default as it was declared, and the value that it denotes. -/
structure FieldDefault (α : Type) where
  raw : Value
  typed : α

structure Field (α : Type) where
  name : String
  type : TypeExpr
  default? : Option (FieldDefault α)
  validator? : Option Validator

namespace Field

variable {α : Type}

/-- Whether a value must be supplied. -/
def isRequired (field : Field α) : Bool :=
  field.default?.isNone && !field.type.isOptional

/-- The field with the validator that its type and default call for: defaults are trusted. -/
def attachValidator (field : Field α) : Field α :=
  { field with
    validator? := if field.default?.isSome then none else Validator.compile field.type }

end Field

/-- A declared record type.  An open type keeps the input keys that it does not declare. -/
structure RecordType (α : Type) where
  name : String
  isOpen : Bool
  fields : List (Field α)

namespace RecordType

variable {α : Type}

def field? (recordType : RecordType α) (name : String) : Option (Field α) :=
  recordType.fields.find? fun field => field.name == name

def declares (recordType : RecordType α) (name : String) : Bool :=
  (recordType.field? name).isSome

end RecordType

/-- A record: its type, the values of the declared fields in order, the kept keys if the type is
open, and the key order of the input that it was read from, which is empty for closed types and
for records that were not read from input. -/
structure Record (α : Type) where
  recordType : RecordType α
  values : List (String × α)
  extras? : Option (List (String × Value))
  layout : List String

namespace Record

variable {α : Type}

def typeName (record : Record α) : String :=
  record.recordType.name

def get? (record : Record α) (name : String) : Option α :=
  record.values.lookup name

/-- The entries that a record keeps beside its fields. -/
def extras (record : Record α) : Entries Value :=
  record.extras?.getD []

/-- Change the kept entries; a record of a closed type has none. -/
def editExtras (record : Record α) (edit : Entries Value → Entries Value) : Record α :=
  { record with extras? := record.extras?.map edit }

/-- What a key of a record stands for. -/
inductive Entry (α : Type) where
  | field (value : α)
  | extra (value : Value)

/-- Look a key up among the declared fields first, then among the kept entries. -/
def lookup? (record : Record α) (key : String) : Option (Entry α) :=
  match record.get? key with
  | some value => some (.field value)
  | none => (record.extras.lookup key).map .extra

def contains (record : Record α) (key : String) : Bool :=
  (record.lookup? key).isSome

end Record

end Recast
