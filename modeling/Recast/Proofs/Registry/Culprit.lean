import Recast.Proofs.Registry.Built
import Recast.Proofs.Registry.Rejects
import Recast.Proofs.Value.Navigation

/-!
# Errors lead to what is wrong

The path of an error leads, from the value that was to be structured, to a value that has the
fault.  So a host can show the faulty part, and needs nothing but the error for it.
-/

namespace Recast

variable {Payload : Type} [BEq Payload]

/-- The value at the path has the fault. -/
def StructureFault.JustifiedBy (registry : Registry Payload) (path : Path) (culprit : Value) :
    StructureFault → Prop
  | .typeMismatch _ found => found = culprit.kind
  | .invalid (.missing field) => culprit = .null ∧ path.last? = some field
  | .invalid (.empty field) =>
      (culprit = .string "" ∨ culprit = .array [] ∨ culprit = .map []) ∧ path.last? = some field
  | .missingField record field =>
      ∃ entries recordType declared, culprit = .map entries ∧ entries.lookup field = none ∧
        registry.record? record = some recordType ∧ recordType.field? field = some declared ∧
          declared.default? = none ∧ declared.type.isOptional = false
  | .hook typeName reason =>
      ∃ hook, registry.hook? typeName = some hook ∧ hook.structurePayload culprit = .error reason
  | .unregistered typeName => registry.record? typeName = none ∨ registry.hook? typeName = none
  | .unknownField _ _ => False

/-- The path of the error leads to a value that has the fault. -/
def StructureError.PointsAtCulprit (registry : Registry Payload) (raw : Value)
    (error : StructureError) : Prop :=
  ∃ culprit, raw.get? error.path = some culprit ∧
    error.fault.JustifiedBy registry error.path culprit

namespace StructureError

variable {registry : Registry Payload}

omit [BEq Payload] in
/-- A fault of the value itself. -/
theorem pointsAtCulprit_atTop {raw : Value} {fault : StructureFault}
    (justified : fault.JustifiedBy registry .root raw) :
    (atTop fault).PointsAtCulprit registry raw :=
  ⟨raw, rfl, justified⟩

omit [BEq Payload] in
/-- A fault of a part, which is found under the component. -/
theorem PointsAtCulprit.under {whole part : Value} {component : String}
    (leads : ∀ components, whole.getAt? (component :: components) = part.getAt? components)
    {error : StructureError} (points : error.PointsAtCulprit registry part) :
    (error.under component).PointsAtCulprit registry whole := by
  obtain ⟨culprit, found, justified⟩ := points
  refine ⟨culprit, (leads error.path.components).trans found, ?_⟩
  have lastKept : ∀ field, error.path.last? = some field →
      (error.path.under component).last? = some field := by
    intro field last
    rw [Path.last?] at last
    rw [Path.last?, Path.under, List.getLast?_cons, last, Option.getD_some]
  obtain ⟨path, fault⟩ := error
  cases fault with
  | invalid failure =>
      cases failure with
      | missing field => exact ⟨justified.1, lastKept field justified.2⟩
      | empty field => exact ⟨justified.1, lastKept field justified.2⟩
  | _ => exact justified

end StructureError

namespace Registry

variable {alphabet : Text.Alphabet} {registry : Registry Payload}

/-- What a validator refuses was structured from `null` or from something empty. -/
theorem Structures.justifies_failure {field : Field (Typed Payload)} {raw : Value}
    {value : Typed Payload} (structures : registry.Structures field.type raw value)
    {failure : ValidationError} (refused : field.validate value = .error failure) :
    (StructureFault.invalid failure).JustifiedBy registry (.under .root field.name) raw := by
  rw [Field.validate] at refused
  split at refused
  · next validator _ =>
      rw [Validator.check] at refused
      split at refused
      · next missing =>
          cases refused
          have isNull : raw.isNull = true := by
            by_contra present
            rw [structures.isMissing_eq_false (Bool.eq_false_iff.2 present)] at missing
            contradiction
          cases raw <;> first | contradiction | exact ⟨rfl, rfl⟩
      · split at refused
        · next empty =>
            cases refused
            exact ⟨structures.isEmpty_of_size? empty.2, rfl⟩
        · contradiction
  · contradiction

/-- A field points at what it refuses, or at the map that lacks it. -/
theorem Refuses.pointsAtCulprit (coherent : registry.Coherent) {name : String}
    {recordType : RecordType (Typed Payload)} (registered : registry.record? name = some recordType)
    {entries : Entries Value} {field : Field (Typed Payload)} (member : field ∈ recordType.fields)
    {error : StructureError} (refuses : registry.Refuses recordType entries field error) :
    error.PointsAtCulprit registry (.map entries) := by
  cases refuses with
  | @null raw input reported =>
      have isNull : raw.isNull = true := by
        rw [Field.reportsNull, Bool.and_assoc, Bool.and_eq_true] at reported
        exact reported.1
      cases raw <;> try contradiction
      exact ⟨.null, Value.getAt?_entry (lookup_of_input? input) [], rfl, rfl⟩
  | @invalid raw value failure input notReported structured refused =>
      exact ⟨raw, Value.getAt?_entry (lookup_of_input? input) [],
        (structures_of_ok coherent structured).justifies_failure refused⟩
  | absent noInput noFallback =>
      obtain ⟨recordMember, sameName⟩ := record?_eq_some registered
      have declared := (RecordType.field?_eq_some_iff (coherent _ recordMember).distinct _ field).2
        ⟨member, rfl⟩
      obtain ⟨noDefault, required⟩ := field.fallback?_eq_none_iff.1 noFallback
      rw [Field.input?_of_required required] at noInput
      subst sameName
      exact StructureError.pointsAtCulprit_atTop
        ⟨entries, recordType, field, rfl, noInput, registered, declared, noDefault, required⟩

/-- Every reason to reject a value points at a part of the value that has the fault. -/
theorem Rejects.pointsAtCulprit (coherent : registry.Coherent) {type : TypeExpr} {raw : Value}
    {error : StructureError} (rejects : registry.Rejects type raw error)
    (wellFormed : raw.WellFormed) (addressable : raw.Addressable) :
    error.PointsAtCulprit registry raw := by
  induction rejects with
  | mismatch type raw => exact StructureError.pointsAtCulprit_atTop rfl
  | optional _ inductionHypothesis => exact inductionHypothesis wellFormed addressable
  | sequence found _ inductionHypothesis
  | set found _ inductionHypothesis =>
      obtain ⟨fits, addressableItems⟩ := (Value.addressable_array_iff _).1 addressable
      have member := List.mem_of_getElem? found
      exact .under (Value.getAt?_item fits found) (inductionHypothesis
        ((Value.wellFormed_array_iff _).1 wellFormed _ member) (addressableItems _ member))
  | mapping member _ inductionHypothesis =>
      obtain ⟨distinct, wellFormedEntries⟩ := (Value.wellFormed_map_iff _).1 wellFormed
      exact .under (Value.getAt?_entry (Entries.lookup_of_mem distinct member)) (inductionHypothesis
        (wellFormedEntries _ member) ((Value.addressable_map_iff _).1 addressable _ member))
  | unknownRecord raw unknown => exact StructureError.pointsAtCulprit_atTop (.inl unknown)
  | notMapping raw registered => exact StructureError.pointsAtCulprit_atTop rfl
  | field registered _ input _ inductionHypothesis =>
      have found := lookup_of_input? input
      have member := Entries.mem_of_lookup found
      exact .under (Value.getAt?_entry found) (inductionHypothesis
        (((Value.wellFormed_map_iff _).1 wellFormed).2 _ member)
        ((Value.addressable_map_iff _).1 addressable _ member))
  | refused registered member refuses => exact refuses.pointsAtCulprit coherent registered member
  | unknownHook raw unknown => exact StructureError.pointsAtCulprit_atTop (.inr unknown)
  | hook registered refused =>
      exact StructureError.pointsAtCulprit_atTop ⟨_, registered, refused⟩

/-- Every error of structuring a value, as any type or as the record type of any name, leads to a
part of the value that has the fault.  Undeclared keys are never reported. -/
theorem rejection_points_at_culprit (built : registry.Built alphabet) {raw : Value}
    (wellFormed : raw.WellFormed) (addressable : raw.Addressable) :
    (∀ type error, registry.structureAs raw type = .error error →
      error.PointsAtCulprit registry raw) ∧
    (∀ name error, registry.structureRecord name raw = .error error →
      error.PointsAtCulprit registry raw) := by
  have distinctFields : ∀ recordType ∈ registry.records, recordType.DistinctFields :=
    fun recordType member => (built.coherent recordType member).distinct
  have points : ∀ type error, registry.structureAs raw type = .error error →
      error.PointsAtCulprit registry raw := fun type error failed =>
    (rejects_of_error distinctFields failed).pointsAtCulprit built.coherent wellFormed addressable
  refine ⟨points, fun name error failed => points (.record name) error ?_⟩
  exact (registry.structureAs_record_eq_error_iff name raw error).2 failed

end Registry

namespace Sample

/-- Two pets, of which the second has an empty name. -/
def petsInput : Value :=
  .array [
    .map [("name", .string "Tom"), ("tag", .string "a7")],
    .map [("tag", .string "b2"), ("name", .string "")]]

theorem rejection_petsInput :
    registry.structureAs petsInput (.sequence (.record "Pet")) =
        .error ⟨⟨["1", "name"]⟩, .invalid (.empty "name")⟩ ∧
      StructureError.PointsAtCulprit registry petsInput
        ⟨⟨["1", "name"]⟩, .invalid (.empty "name")⟩ := by
  have failed : registry.structureAs petsInput (.sequence (.record "Pet")) =
      .error ⟨⟨["1", "name"]⟩, .invalid (.empty "name")⟩ := by
    rfl
  have wellFormed : petsInput.WellFormed := by
    simp [petsInput, Value.wellFormed_array_iff, Value.WellFormed, Value.EntriesWellFormed]
  have addressable : petsInput.Addressable := by
    simp [petsInput, Value.addressable_array_iff, Value.addressable_map_iff,
      Value.addressable_string, UInt64.size]
  exact ⟨failed, (Registry.rejection_points_at_culprit built_registry wellFormed addressable).1 _ _
    failed⟩

end Sample

end Recast
