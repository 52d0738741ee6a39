import Recast.Json.Basic

/-!
# Decoding documents

A decoder turns a document into data of a program or says what it expected.  Integers are taken
from integers in range only, never from floats; floats are taken from every number.
-/

namespace Recast

/-- What a decoder expected where it found something else. -/
structure DecodeFault where
  expected : String
  deriving DecidableEq

def DecodeFault.message (fault : DecodeFault) : String :=
  s!"expected {fault.expected}"

/-- A way to read documents as data. -/
abbrev Decoder (α : Type) : Type :=
  Json → Except DecodeFault α

namespace Decoder

variable {α β : Type}

/-- Every document, as it is. -/
def document : Decoder Json :=
  .ok

def bool : Decoder Bool
  | .bool truth => .ok truth
  | _ => .error ⟨"a boolean"⟩

def string : Decoder String
  | .string text => .ok text
  | _ => .error ⟨"a string"⟩

def int64 : Decoder Int64
  | .number number =>
      match number.toInt64? with
      | some whole => .ok whole
      | none => .error ⟨"a signed integer of 64 bits"⟩
  | _ => .error ⟨"a signed integer of 64 bits"⟩

def uint8 : Decoder UInt8
  | .number (.unsigned number) =>
      if number.toNat < UInt8.size then .ok number.toUInt8 else .error ⟨"an unsigned byte"⟩
  | _ => .error ⟨"an unsigned byte"⟩

def binary64 : Decoder Binary64
  | .number number => .ok number.toBinary64
  | _ => .error ⟨"a number"⟩

/-- Nothing from `null`, and otherwise what the decoder gives. -/
def optional (decoder : Decoder α) : Decoder (Option α)
  | .null => .ok none
  | present => (decoder present).map some

def list (decoder : Decoder α) : Decoder (List α)
  | .array items => items.mapM decoder
  | _ => .error ⟨"an array"⟩

/-- A map, its values read by the same decoder, sorted by key. -/
def sortedMap (decoder : Decoder α) : Decoder (List (String × α))
  | .object members => do
      let entries ← Entries.sequence (members.map fun entry => (entry.1, decoder entry.2))
      .ok (entries.mergeSort fun left right => left.1 ≤ right.1)
  | _ => .error ⟨"an object"⟩

/-- A required member of an object. -/
def member (key : String) (decoder : Decoder α) (members : Entries Json) :
    Except DecodeFault α :=
  match members.lookup key with
  | some found => decoder found
  | none => .error ⟨s!"a member '{key}'"⟩

/-- A member of an object that may be absent or `null`. -/
def member? (key : String) (decoder : Decoder α) (members : Entries Json) :
    Except DecodeFault (Option α) :=
  match members.lookup key with
  | some found => optional decoder found
  | none => .ok none

end Decoder

end Recast
