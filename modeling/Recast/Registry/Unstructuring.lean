import Recast.Registry.Basic
import Recast.Typed.Equality

/-!
# Unstructuring: from typed to untyped values

A typed value gives back its untyped form.  Only custom values can stand in the way.  A record
writes its declared fields over the entries that it keeps, and then brings the keys into the order
of the input that it was read from; new keys follow.  On request, fields that hold their default
are left out, together with a kept entry of the same name.
-/

namespace Recast

variable {Payload : Type} [BEq Payload]

/-- Why a custom value has no untyped form. -/
inductive UnstructureError where
  | unregistered (typeName : String)
  | hook (typeName reason : String)
  deriving DecidableEq

def UnstructureError.message : UnstructureError → String
  | .unregistered typeName => s!"no unstructure function registered for '{typeName}'"
  | .hook typeName reason => s!"'{typeName}' hook failed to unstructure: {reason}"

/-- Whether fields that hold their default are written. -/
inductive DefaultFields where
  | written
  | stripped
  deriving DecidableEq

namespace Field

/-- Whether the value equals the default of the field. -/
def isDefault (field : Field (Typed Payload)) (value : Typed Payload) : Bool :=
  match field.default? with
  | some default => default.typed == value
  | none => false

end Field

namespace Record

/-- Write the fields over the entries written so far.  `outputs` holds the untyped form of the
value of each field. -/
def writeFields (values : Entries (Typed Payload)) (defaults : DefaultFields)
    (outputs : Entries (Except UnstructureError Value)) :
    List (Field (Typed Payload)) → Entries Value → Except UnstructureError (Entries Value)
  | [], written => .ok written
  | field :: rest, written =>
      let value := (values.lookup field.name).getD .missing
      if defaults = .stripped ∧ field.isDefault value = true then
        writeFields values defaults outputs rest (Entries.erase written field.name)
      else do
        let output ← (outputs.lookup field.name).getD (.ok .null)
        writeFields values defaults outputs rest (Entries.insert written field.name output)

end Record

namespace Registry

def unstructureCustom (registry : Registry Payload) (typeName : String) (payload : Payload) :
    Except UnstructureError Value :=
  match registry.hook? typeName with
  | none => .error (.unregistered typeName)
  | some hook =>
      match hook.unstructurePayload? payload with
      | some value => .ok value
      | none => .error (.hook typeName s!"payload is not a {hook.payloadType}")

mutual

/-- The untyped form of a value. -/
def unstructure (registry : Registry Payload) (defaults : DefaultFields) :
    Typed Payload → Except UnstructureError Value
  | .missing => .ok .null
  | .bool truth => .ok (.bool truth)
  | .int number => .ok (.integer number)
  | .float number => .ok (.float number)
  | .str text => .ok (.string text)
  | .sequence items => do
      let values ← registry.unstructureItems defaults items
      .ok (.array values)
  | .set items => do
      let values ← registry.unstructureItems defaults items
      .ok (.array values)
  | .mapping entries => do
      let values ← Entries.sequence (registry.unstructureEntries defaults entries)
      .ok (.map values)
  | .record ⟨recordType, values, extras?, layout⟩ => do
      let written ← Record.writeFields values defaults
        (registry.unstructureEntries defaults values) recordType.fields (extras?.getD [])
      .ok (.map (Entries.reorder written layout))
  | .raw value => .ok value
  | .custom typeName payload => registry.unstructureCustom typeName payload

def unstructureItems (registry : Registry Payload) (defaults : DefaultFields) :
    List (Typed Payload) → Except UnstructureError (List Value)
  | [] => .ok []
  | item :: rest => do
      let value ← registry.unstructure defaults item
      let others ← registry.unstructureItems defaults rest
      .ok (value :: others)

/-- The outcome for the value of each entry. -/
def unstructureEntries (registry : Registry Payload) (defaults : DefaultFields) :
    List (String × Typed Payload) → List (String × Except UnstructureError Value)
  | [] => []
  | (key, value) :: rest =>
      (key, registry.unstructure defaults value) :: registry.unstructureEntries defaults rest

end

theorem unstructureEntries_eq_mapValues (registry : Registry Payload) (defaults : DefaultFields)
    (entries : List (String × Typed Payload)) :
    registry.unstructureEntries defaults entries =
      Entries.mapValues (registry.unstructure defaults) entries := by
  induction entries with
  | nil => rfl
  | cons entry rest inductionHypothesis =>
      rw [unstructureEntries, inductionHypothesis]
      rfl

def unstructureRecord (registry : Registry Payload) (defaults : DefaultFields)
    (record : Record (Typed Payload)) : Except UnstructureError Value :=
  registry.unstructure defaults (.record record)

end Registry

end Recast
