import Recast.StructureError
import Recast.Typed.Admission

/-!
# Making and changing records

A record is assembled field by field, in the order of declaration.  A supplied value has to pass
the validator of its field and, unless it was just structured as the type of the field, conform to
that type.  A field without a supplied value takes its default, or is missing if it is optional.
Changing a field later asks the same of the new value.  A record that is read from input is
assembled at the path of the input.
-/

namespace Recast

variable {Payload : Type} [BEq Payload]

/-- Whether a supplied value is held against the type of its field. -/
inductive TypeCheck where
  /-- The value was structured as the type of the field. -/
  | trusted
  /-- Nothing is known of the value. -/
  | checked
  deriving DecidableEq

namespace Field

/-- What a field is when no value is supplied. -/
def fallback? (field : Field (Typed Payload)) : Option (Typed Payload) :=
  match field.default? with
  | some default => some default.typed
  | none => if field.type.isOptional then some .missing else none

def validate (field : Field (Typed Payload)) (value : Typed Payload) :
    Except ValidationError Unit :=
  match field.validator? with
  | some validator => validator.check field.name value
  | none => .ok ()

/-- Check a value that is supplied to the record at `path`: first by the validator, then against the
type. -/
def checkSupplied (field : Field (Typed Payload)) (path : Path) (typeCheck : TypeCheck)
    (value : Typed Payload) : Except StructureError Unit :=
  match field.validate value with
  | .error failure => .error ⟨path.child field.name, .invalid failure⟩
  | .ok _ =>
      if typeCheck = .checked ∧ field.type.admits value = false then
        .error ⟨path.child field.name, .typeMismatch field.type.text value.kind⟩
      else
        .ok ()

end Field

namespace RecordType

/-- The fault of a value for a field that the type does not declare. -/
def unknownField (recordType : RecordType (Typed Payload)) (name : String) : StructureFault :=
  .unknownField recordType.name name

/-- The value of one field, given the supplied values. -/
def fieldValue (recordType : RecordType (Typed Payload)) (path : Path) (typeCheck : TypeCheck)
    (supplied : Entries (Typed Payload)) (field : Field (Typed Payload)) :
    Except StructureError (Typed Payload) :=
  match supplied.lookup field.name with
  | some value => do
      field.checkSupplied path typeCheck value
      .ok value
  | none =>
      match field.fallback? with
      | some value => .ok value
      | none => .error ⟨path, .missingField recordType.name field.name⟩

/-- The values of all declared fields of the record at `path`, in order.  Supplied values without a
field are looked for last. -/
def assemble (recordType : RecordType (Typed Payload)) (path : Path) (typeCheck : TypeCheck)
    (supplied : Entries (Typed Payload)) : Except StructureError (Entries (Typed Payload)) := do
  let values ← Entries.sequence <| recordType.fields.map fun field =>
    (field.name, recordType.fieldValue path typeCheck supplied field)
  match supplied.find? fun entry => !recordType.declares entry.1 with
  | some (name, _) => .error ⟨path, recordType.unknownField name⟩
  | none => .ok values

def construct (recordType : RecordType (Typed Payload)) (supplied : Entries (Typed Payload)) :
    Except StructureError (Record (Typed Payload)) := do
  let values ← recordType.assemble .root .checked supplied
  .ok {
    recordType := recordType
    values := values
    extras? := if recordType.isOpen then some [] else none
    layout := [] }

end RecordType

namespace Record

/-- Give a declared field a new value: its old value and the changed record. -/
def set (record : Record (Typed Payload)) (name : String) (value : Typed Payload) :
    Except StructureError (Typed Payload × Record (Typed Payload)) :=
  match record.recordType.field? name, record.get? name with
  | some field, some old => do
      field.checkSupplied .root .checked value
      .ok (old, { record with values := Entries.insert record.values name value })
  | _, _ => .error (.atTop (record.recordType.unknownField name))

end Record

end Recast
