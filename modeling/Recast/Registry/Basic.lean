import Recast.Text.Quoted
import Recast.Typed.Basic

/-!
# Registries

A registry holds the record types and the custom types that names may refer to.  A custom type is
given by a hook of the host, which converts untyped values to what custom values hold, and back.
-/

namespace Recast

variable {Payload : Type}

/-- The conversions of a custom type.  What a custom value holds need not be of the kind that
the hook deals with: it is then foreign to the hook, which gives no value for it. -/
structure Hook (Payload : Type) where
  /-- What an untyped value stands for, or the reason why it stands for nothing. -/
  structurePayload : Value → Except String Payload
  /-- The name of what the hook deals with, in messages. -/
  payloadType : String
  /-- The untyped form, if the payload is of the kind that the hook deals with. -/
  unstructurePayload? : Payload → Option Value

/-- Record types in the order of their declaration, and hooks by name. -/
structure Registry (Payload : Type) where
  records : List (RecordType (Typed Payload)) := []
  hooks : List (String × Hook Payload) := []

namespace Registry

def record? (registry : Registry Payload) (name : String) :
    Option (RecordType (Typed Payload)) :=
  registry.records.find? fun recordType => recordType.name == name

def hook? (registry : Registry Payload) (name : String) : Option (Hook Payload) :=
  registry.hooks.lookup name

def hasRecord (registry : Registry Payload) (name : String) : Bool :=
  (registry.record? name).isSome

def hasHook (registry : Registry Payload) (name : String) : Bool :=
  (registry.hook? name).isSome

def contains (registry : Registry Payload) (name : String) : Bool :=
  registry.hasRecord name || registry.hasHook name

def recordNames (registry : Registry Payload) : List String :=
  registry.records.map RecordType.name

/-- The names of the hooks, sorted by code points. -/
def hookNames (registry : Registry Payload) : List String :=
  (Entries.keys registry.hooks).mergeSort fun left right => left ≤ right

def quotedNames (names : List String) : String :=
  "[" ++ ", ".intercalate (names.map Text.quoted) ++ "]"

def summary (registry : Registry Payload) : String :=
  "Registry \x7b records: " ++ quotedNames registry.recordNames ++ ", hooks: " ++
    quotedNames registry.hookNames ++ " \x7d"

end Registry

end Recast
