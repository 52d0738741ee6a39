import Recast.Proofs.Occurrence
import Recast.Proofs.Registry.Place

/-!
# What is read completely

`Complete` says of every place what makes reading give away nothing: records have all that they
declare, closed records nothing else, sets have no element twice, and integers that are read as
floats are kept exactly.  Hooks may give away what they like, so types that reach no custom type
have a condition of their own.
-/

namespace Recast

variable {Payload : Type}

/-! ## Types without hooks -/

namespace TypeExpr

def isCustom : TypeExpr → Bool
  | .custom _ => true
  | _ => false

end TypeExpr

namespace Registry

/-- The types that a type is made of: those in its written form, and for a record those of its
fields. -/
def typeParts (registry : Registry Payload) : TypeExpr → List TypeExpr
  | .optional inner => [inner]
  | .sequence item => [item]
  | .set item => [item]
  | .mapping key value => [key, value]
  | .record name =>
      match registry.record? name with
      | some recordType => recordType.fields.map Field.type
      | none => []
  | _ => []

theorem mem_typeParts_record {registry : Registry Payload} {name : String}
    {recordType : RecordType (Typed Payload)} (registered : registry.record? name = some recordType)
    {field : Field (Typed Payload)} (member : field ∈ recordType.fields) :
    field.type ∈ registry.typeParts (.record name) := by
  rw [typeParts, registered]
  exact List.mem_map_of_mem member

/-- No custom type is reached from the type, directly or through the fields of records. -/
def ReachesNoCustom (registry : Registry Payload) (type : TypeExpr) : Prop :=
  Everywhere registry.typeParts (fun part => part.isCustom = false) type

end Registry

/-! ## Completeness -/

/-- The entries have a key for each declared field, with a value other than `null` where a default
would stand in for it; a closed type has no other keys. -/
structure RecordType.CompleteIn (recordType : RecordType (Typed Payload))
    (entries : Entries Value) : Prop where
  present : ∀ field ∈ recordType.fields, field.name ∈ Entries.keys entries
  notNull : ∀ field ∈ recordType.fields, field.type.isOptional = true →
    ∀ default, field.default? = some default → default.typed ≠ .missing →
      entries.lookup field.name ≠ some .null
  onlyDeclared : recordType.isOpen = false →
    ∀ key ∈ Entries.keys entries, recordType.declares key = true

namespace Registry

variable [BEq Payload]

/-- Reading the value as the type gives away nothing, apart from its parts. -/
def CompleteHere (registry : Registry Payload) : TypeExpr → Value → Prop
  | .record name, .map entries =>
      ∀ recordType, registry.record? name = some recordType → recordType.CompleteIn entries
  | .set item, .array items =>
      items.Pairwise fun earlier later => ∀ first second,
        registry.structureAs earlier item = .ok first →
        registry.structureAs later item = .ok second → (first == second) = false
  | .scalar .float, .integer number =>
      (Value.integer number == .float (.ofInt number.toInt)) = true
  | _, _ => True

/-- Reading the value as the type gives away nothing at any place. -/
def Complete (registry : Registry Payload) (type : TypeExpr) (raw : Value) : Prop :=
  ∀ path inner part, registry.Place type raw path inner part → registry.CompleteHere inner part

variable {registry : Registry Payload}

theorem complete_scalar {kind : Scalar} {raw : Value}
    (here : registry.CompleteHere (.scalar kind) raw) :
    registry.Complete (.scalar kind) raw :=
  AtPlaces.of_scalar here

theorem complete_record {name : String} {recordType : RecordType (Typed Payload)}
    {entries : Entries Value} (registered : registry.record? name = some recordType)
    (here : recordType.CompleteIn entries)
    (each : ∀ field ∈ recordType.fields, ∀ raw, entries.lookup field.name = some raw →
      registry.Complete field.type raw) :
    registry.Complete (.record name) (.map entries) := by
  refine AtPlaces.of_record registered (fun other otherRegistered => ?_) each
  rw [registered, Option.some.injEq] at otherRegistered
  rw [← otherRegistered]
  exact here

end Registry

end Recast
