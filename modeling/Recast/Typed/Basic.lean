import Recast.Record.Basic

/-!
# Typed values

A typed value is what structuring makes of an untyped one.  Values of custom types are opaque to
this library: a host chooses the type `Payload` of what they hold.
-/

namespace Recast

/-- A value of a declared type.  `missing` is the value of an optional field without one. -/
inductive Typed (Payload : Type) where
  | missing
  | bool (truth : Bool)
  | int (number : Int64)
  | float (number : Binary64)
  | str (text : String)
  | sequence (items : List (Typed Payload))
  /-- The elements in the order in which they first occurred. -/
  | set (items : List (Typed Payload))
  | mapping (entries : List (String × Typed Payload))
  | record (record : Record (Typed Payload))
  /-- An untyped value, kept as it is. -/
  | raw (value : Value)
  | custom (typeName : String) (payload : Payload)

namespace Typed

variable {Payload : Type}

instance : Inhabited (Typed Payload) :=
  ⟨.missing⟩

/-- The word for the form of a value in messages. -/
def kind : Typed Payload → String
  | .missing => "missing"
  | .bool _ => "bool"
  | .int _ => "int"
  | .float _ => "float"
  | .str _ => "str"
  | .sequence _ => "list"
  | .set _ => "set"
  | .mapping _ => "dict"
  | .record _ => "record"
  | .raw _ => "any"
  | .custom _ _ => "custom"

/-- Whether there is no value: also an untyped `null` is none. -/
def isMissing : Typed Payload → Bool
  | .missing => true
  | .raw value => value.isNull
  | _ => false

/-- The number of elements of text and collections; text counts code points. -/
def size? : Typed Payload → Option Nat
  | .str text => some text.length
  | .sequence items => some items.length
  | .set items => some items.length
  | .mapping entries => some entries.length
  | _ => none

def asBool? : Typed Payload → Option Bool
  | .bool truth => some truth
  | _ => none

def asInt? : Typed Payload → Option Int64
  | .int number => some number
  | _ => none

def asFloat? : Typed Payload → Option Binary64
  | .float number => some number
  | _ => none

def asStr? : Typed Payload → Option String
  | .str text => some text
  | _ => none

def asItems? : Typed Payload → Option (List (Typed Payload))
  | .sequence items => some items
  | .set items => some items
  | _ => none

def asMapping? : Typed Payload → Option (Entries (Typed Payload))
  | .mapping entries => some entries
  | _ => none

def asRecord? : Typed Payload → Option (Record (Typed Payload))
  | .record held => some held
  | _ => none

/-- The written form of a custom value, given the written form of what it holds. -/
def customText? (payloadText : Payload → String) : Typed Payload → Option String
  | .custom typeName payload => some s!"{typeName}({payloadText payload})"
  | _ => none

end Typed

namespace Validator

variable {Payload : Type}

def check (validator : Validator) (field : String) (value : Typed Payload) :
    Except ValidationError Unit :=
  if value.isMissing then
    .error (.missing field)
  else if validator = .nonEmpty ∧ value.size? = some 0 then
    .error (.empty field)
  else
    .ok ()

end Validator

end Recast
