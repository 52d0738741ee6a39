import Recast.Json.Conversion
import Recast.Json.Decoding
import Recast.Json.Encoding
import Recast.Registry.Structuring
import Recast.Registry.Unstructuring

/-!
# Records from documents and back

Documents and the data of a program go through the record types of a registry, so that what
arrives has been validated and completed.
-/

namespace Recast

variable {Payload : Type} [BEq Payload]

/-- Why documents, data and records do not go together. -/
inductive BridgeError where
  | structuring (error : StructureError)
  | unstructuring (error : UnstructureError)
  | decoding (fault : DecodeFault)
  | encoding (fault : EncodeFault)
  deriving DecidableEq

def BridgeError.message : BridgeError → String
  | .structuring error => error.message
  | .unstructuring error => error.message
  | .decoding fault => s!"decode error: {fault.message}"
  | .encoding fault => s!"encode error: {fault.message}"

def Value.decode {α : Type} (decoder : Decoder α) (value : Value) : Except BridgeError α :=
  (decoder value.toJson).mapError .decoding

def Value.encode (data : HostData) : Except BridgeError Value :=
  data.toValue.mapError .encoding

namespace Registry

def structureJson (registry : Registry Payload) (name : String) (document : Json) :
    Except BridgeError (Record (Typed Payload)) :=
  (registry.structureRecord name (.ofJson document)).mapError .structuring

def structureData (registry : Registry Payload) (name : String) (data : HostData) :
    Except BridgeError (Record (Typed Payload)) := do
  let value ← Value.encode data
  (registry.structureRecord name value).mapError .structuring

/-- Read a document as data of a program, by way of a record: what the decoder sees has been
validated and completed. -/
def structureInto {α : Type} (registry : Registry Payload) (name : String) (document : Json)
    (decoder : Decoder α) : Except BridgeError α := do
  let record ← registry.structureJson name document
  let value ← (registry.unstructureRecord .written record).mapError .unstructuring
  value.decode decoder

def unstructureJson (registry : Registry Payload) (defaults : DefaultFields)
    (record : Record (Typed Payload)) : Except BridgeError Json := do
  let value ← (registry.unstructureRecord defaults record).mapError .unstructuring
  .ok value.toJson

end Registry

end Recast
