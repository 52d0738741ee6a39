import Recast.Proofs.Record.Reached
import Recast.Proofs.Registry.Soundness

/-!
# Construction agrees with structuring

Structuring a record leaves out the check of types that construction makes.  Nothing is lost by
it: what a value is structured as, its type admits.  So a record that is constructed from what the
fields of a map are structured as is the record that the map is structured as, apart from the
undeclared entries of the map, and where one of the two fails the other fails with the same error.
-/

namespace Recast

variable {Payload : Type} [BEq Payload]

namespace Registry

variable {alphabet : Text.Alphabet} {registry : Registry Payload}

/-! ## What is constructed from -/

/-- What a host hands over for a field to construct a record like the one that the entries are
structured as. -/
inductive Prepares (registry : Registry Payload) (entries : Entries Value)
    (field : Field (Typed Payload)) : Option (Typed Payload) → Prop
  | absent :
      entries.lookup field.name = none →
      Prepares registry entries field none
  | nothing {raw : Value} :
      entries.lookup field.name = some raw →
      raw.isNull = true →
      field.type.isOptional = true →
      Prepares registry entries field none
  /-- A `null` that only the validator of the field can report. -/
  | missing {raw : Value} :
      entries.lookup field.name = some raw →
      raw.isNull = true →
      field.type.acceptsNull = false →
      field.validator?.isSome = true →
      Prepares registry entries field (some .missing)
  | structured {raw : Value} {value : Typed Payload} :
      entries.lookup field.name = some raw →
      (raw.isNull = true → field.type.isOptional = false ∧
        (field.type.acceptsNull = true ∨ field.validator? = none)) →
      registry.structureAs raw field.type = .ok value →
      Prepares registry entries field (some value)

/-- The supplied values are what the entries hold for the fields, and nothing else. -/
structure PreparesAll (registry : Registry Payload) (recordType : RecordType (Typed Payload))
    (entries : Entries Value) (supplied : Entries (Typed Payload)) : Prop where
  each : ∀ field ∈ recordType.fields,
    registry.Prepares entries field (supplied.lookup field.name)
  declared : ∀ key ∈ Entries.keys supplied, recordType.declares key = true

/-- Structuring supplies for a field what is prepared for it. -/
theorem Prepares.supplyFrom {entries : Entries Value} {field : Field (Typed Payload)}
    {given : Option (Typed Payload)} (prepares : registry.Prepares entries field given) :
    field.supplyFrom .root (registry.entryCandidates entries) = .ok given := by
  rw [supplyFrom_eq]
  cases prepares with
  | absent found => rw [Field.input?, found, Option.filter_none]
  | nothing found isNull optional =>
      rw [Field.input?_of_lookup found]
      simp [isNull, optional]
  | missing found isNull refused checked =>
      have required : field.type.isOptional = false := by
        rw [Bool.eq_false_iff]
        intro optional
        obtain ⟨inner, isOptional⟩ := TypeExpr.exists_eq_optional optional
        rw [isOptional] at refused
        contradiction
      rw [Field.input?_of_lookup found]
      simp [isNull, required, Field.reportsNull, refused, checked]
  | @structured raw value found plain structured =>
      have taken : (raw.isNull && field.type.isOptional) = false := by
        cases isNull : raw.isNull with
        | false => rfl
        | true => exact (plain isNull).1
      have notReported : field.reportsNull raw = false := by
        rw [Field.reportsNull]
        cases isNull : raw.isNull with
        | false => rfl
        | true => rcases (plain isNull).2 with accepted | unchecked <;> simp [*]
      rw [Field.input?_of_lookup found]
      simp [taken, notReported, structured, Except.mapError, Except.map]

/-- What is prepared for a field and passes its validator is admitted by its type. -/
theorem Prepares.admits (coherent : registry.Coherent) {entries : Entries Value}
    {field : Field (Typed Payload)} {value : Typed Payload}
    (prepares : registry.Prepares entries field (some value))
    (validated : field.validate value = .ok ()) :
    field.type.admits value = true := by
  cases prepares with
  | missing _ _ _ checked =>
      rw [Field.validate_missing checked] at validated
      contradiction
  | structured _ _ structured => exact (structures_of_ok coherent structured).admits

theorem PreparesAll.supplyAll {recordType : RecordType (Typed Payload)} {entries : Entries Value}
    {supplied : Entries (Typed Payload)}
    (prepares : registry.PreparesAll recordType entries supplied) :
    Field.supplyAll .root (registry.entryCandidates entries) recordType.fields =
      .ok (Entries.collect Field.name (fun field => supplied.lookup field.name)
        recordType.fields) :=
  (Field.supplyAll_eq_ok_iff _ _ _).2
    ⟨_, fun field member => (prepares.each field member).supplyFrom, rfl⟩

/-- The type check of construction changes nothing for prepared values. -/
theorem PreparesAll.assemble_eq (coherent : registry.Coherent)
    {recordType : RecordType (Typed Payload)} (distinct : recordType.DistinctFields)
    {entries : Entries Value} {supplied : Entries (Typed Payload)}
    (prepares : registry.PreparesAll recordType entries supplied) :
    recordType.assemble .root .checked supplied =
      recordType.assemble .root .trusted
        (Entries.collect Field.name (fun field => supplied.lookup field.name)
          recordType.fields) := by
  refine RecordType.assemble_congr (fun field member => ?_) prepares.declared
    fun key member => (RecordType.declares_iff key).2 (Entries.mem_keys_collect member)
  have prepared := prepares.each field member
  rw [RecordType.fieldValue, RecordType.fieldValue, Entries.lookup_collect distinct _ member]
  cases given : supplied.lookup field.name with
  | none => rfl
  | some value =>
      rw [given] at prepared
      simp only [Field.checkSupplied_eq_of_admits (prepared.admits coherent) .checked]

/-- Structuring assembles what is prepared just as construction does. -/
theorem PreparesAll.structureInput_eq (coherent : registry.Coherent)
    {recordType : RecordType (Typed Payload)} (distinct : recordType.DistinctFields)
    {entries : Entries Value} {supplied : Entries (Typed Payload)}
    (prepares : registry.PreparesAll recordType entries supplied) :
    recordType.structureInput .root (registry.entryCandidates entries) = (do
      let values ← recordType.assemble .root .checked supplied
      .ok ⟨recordType, values,
        if recordType.isOpen then
          some (entries.filter fun entry => !recordType.declares entry.1)
        else none,
        if recordType.isOpen then Entries.keys entries else []⟩) := by
  rw [Registry.structureInput_eq, prepares.supplyAll, prepares.assemble_eq coherent distinct]
  rfl

/-! ## Agreement -/

/-- What a value is structured as, its type admits.  Hence a map is structured as a record exactly
where a record can be constructed from the prepared values of its fields: either both fail with
the same error, or both records have the same values, and the structured one keeps beside them
the undeclared entries of the map, in order, if its type is open. -/
theorem construct_agrees_with_structure (built : registry.Built alphabet) :
    (∀ type raw value, registry.structureAs raw type = .ok value → type.admits value = true) ∧
      ∀ name recordType, registry.record? name = some recordType →
        ∀ entries supplied, registry.PreparesAll recordType entries supplied →
          (∃ error, registry.structureRecord name (.map entries) = .error error ∧
              recordType.construct supplied = .error error) ∨
            ∃ structured constructed,
              registry.structureRecord name (.map entries) = .ok structured ∧
              recordType.construct supplied = .ok constructed ∧
              structured.values = constructed.values ∧
              structured.extras? =
                if recordType.isOpen then
                  some (entries.filter fun entry => !recordType.declares entry.1)
                else
                  none := by
  have coherent := built.coherent
  refine ⟨fun type raw value structured => (structures_of_ok coherent structured).admits, ?_⟩
  intro name recordType found entries supplied prepares
  have distinct := (coherent.soundIn found).distinct
  simp only [structureRecord, found, structureWith, prepares.structureInput_eq coherent distinct,
    RecordType.construct]
  cases recordType.assemble .root .checked supplied with
  | error error => exact .inl ⟨error, rfl, rfl⟩
  | ok values => exact .inr ⟨_, _, rfl, rfl, rfl, rfl⟩

end Registry

/-! ## A pet, structured and constructed -/

namespace Sample

/-- A pet of unknown age, with an entry that its type does not declare. -/
def strayEntries : Entries Value :=
  [("name", .string "Rex"), ("chip", .integer 7), ("age", .null), ("tag", .string "T-2")]

/-- What to construct the pet from: nothing is handed over for its age. -/
def straySupplied : Entries (Typed String) :=
  [("name", .str "Rex"), ("tag", .custom "Tag" "T-2")]

theorem prepares_stray : registry.PreparesAll petType strayEntries straySupplied where
  each := by
    simp only [petType, List.forall_mem_cons]
    refine ⟨?_, ?_, ?_, by simp⟩
    · exact .structured rfl (fun isNull => Bool.noConfusion isNull) rfl
    · exact .nothing rfl rfl rfl
    · exact .structured rfl (fun isNull => Bool.noConfusion isNull) rfl
  declared := by decide

/-- Both ways yield the same values; the structured pet keeps the entry beside them. -/
theorem construct_agrees_stray :
    ∃ structured constructed,
      registry.structureRecord "Pet" (.map strayEntries) = .ok structured ∧
        petType.construct straySupplied = .ok constructed ∧
        structured.values = constructed.values ∧
        structured.extras? = some [("chip", .integer 7)] := by
  obtain ⟨_, agrees⟩ := Registry.construct_agrees_with_structure built_registry
  rcases agrees "Pet" petType rfl strayEntries straySupplied prepares_stray with
    ⟨error, _, failed⟩ | ⟨structured, constructed, read, made, sameValues, sameExtras⟩
  · contradiction
  · exact ⟨structured, constructed, read, made, sameValues, sameExtras⟩

end Sample

end Recast
