import Recast.Proofs.Record.Reached
import Recast.Proofs.Registry.Writing

/-!
# The map that a record is written as

Whatever was done to a record, the map that it is written as is given by three lists of keys: the
keys of the input that it was read from, the keys that it keeps now, and the declared fields that
are written.  The keys of the input come first, in their order, then the other kept keys, then the
other fields.  Fields go before kept entries of the same name.
-/

namespace Recast

variable {Payload : Type} [BEq Payload]

/-! ## What lasts -/

omit [BEq Payload] in
theorem ExtrasEdit.nodup_keys_apply (edit : ExtrasEdit) {extras : Entries Value}
    (distinct : (Entries.keys extras).Nodup) :
    (Entries.keys (edit.apply extras)).Nodup := by
  cases edit with
  | insert key value => exact Entries.nodup_keys_insert distinct key value
  | remove key => exact Entries.nodup_keys_erase distinct key
  | replace key value =>
      rw [apply]
      split
      · exact Entries.nodup_keys_insert distinct key value
      · exact distinct
  | extend pairs => exact Entries.nodup_keys_extend distinct pairs
  | assign pairs => exact Entries.nodup_keys_ofList pairs

namespace Record

/-- What holds of the parts of a record whatever is done to it. -/
structure Shaped (record : Record (Typed Payload)) : Prop where
  distinctFields : record.recordType.DistinctFields
  filled : ∃ valueOf, record.values = record.recordType.table valueOf
  extrasDistinct : (Entries.keys record.extras).Nodup
  layoutDistinct : record.layout.Nodup

/-- How a record comes into being: by reading, or by construction.  The keys are those of the
input, in order, if the record keeps entries of the input. -/
inductive Begins : List String → Record (Typed Payload) → Prop
  | structured {registry : Registry Payload} {recordType : RecordType (Typed Payload)}
      {entries : Entries Value} {record : Record (Typed Payload)} :
      recordType.Declared →
      (Entries.keys entries).Nodup →
      registry.structureWith recordType (.map entries) = .ok record →
      Begins (if recordType.isOpen then Entries.keys entries else []) record
  | constructed {recordType : RecordType (Typed Payload)} {supplied : Entries (Typed Payload)}
      {record : Record (Typed Payload)} :
      recordType.Declared →
      recordType.construct supplied = .ok record →
      Begins [] record

variable {record : Record (Typed Payload)}

theorem Shaped.perform (shaped : record.Shaped) (edit : Edit Payload) :
    (record.perform edit).Shaped := by
  cases edit with
  | set name value =>
      rw [Record.perform]
      split
      · next old changed isSet =>
          obtain ⟨field, declared, _, _, rfl⟩ :=
            (record.set_eq_ok_iff name value old changed).1 isSet
          obtain ⟨member, rfl⟩ :=
            (RecordType.field?_eq_some_iff shaped.distinctFields name field).1 declared
          obtain ⟨valueOf, tabulated⟩ := shaped.filled
          have changedTable := RecordType.insert_table shaped.distinctFields valueOf member value
          rw [← tabulated] at changedTable
          exact ⟨shaped.distinctFields, ⟨_, changedTable⟩, shaped.extrasDistinct,
            shaped.layoutDistinct⟩
      · exact shaped
  | extras edit =>
      refine ⟨shaped.distinctFields, shaped.filled, ?_, shaped.layoutDistinct⟩
      have distinct := shaped.extrasDistinct
      rw [extras] at distinct ⊢
      rw [Record.perform, editExtras]
      cases kept : record.extras? with
      | none => exact List.nodup_nil
      | some entries =>
          rw [kept] at distinct
          exact edit.nodup_keys_apply distinct

theorem layout_perform (edit : Edit Payload) : (record.perform edit).layout = record.layout := by
  cases edit with
  | set name value =>
      rw [perform]
      split
      · next old changed isSet =>
          obtain ⟨_, _, _, _, rfl⟩ := (record.set_eq_ok_iff name value old changed).1 isSet
          rfl
      · rfl
  | extras edit => rfl

theorem Begins.shaped_and_layout {keys : List String} (begins : Begins keys record) :
    record.Shaped ∧ record.layout = keys := by
  cases begins with
  | @structured registry recordType entries _ declared distinctKeys structured =>
      obtain ⟨_, home, built, member⟩ := declared
      have distinct := (built.coherent recordType member).distinct
      obtain ⟨_, valueOf, same, _, rfl⟩ :=
        (Registry.structureWith_eq_ok_iff registry distinct _ record).1 structured
      cases same
      refine ⟨⟨distinct, ⟨valueOf, rfl⟩, ?_, ?_⟩, rfl⟩
      · rw [extras, RecordType.reading]
        cases recordType.isOpen with
        | false => exact List.nodup_nil
        | true =>
            change (Entries.keys (entries.filter fun entry => !recordType.declares entry.1)).Nodup
            rw [Entries.keys_filter fun key => !recordType.declares key]
            exact distinctKeys.filter _
      · rw [RecordType.reading]
        cases recordType.isOpen with
        | false => exact List.nodup_nil
        | true => exact distinctKeys
  | @constructed recordType supplied _ declared constructed =>
      obtain ⟨_, home, built, member⟩ := declared
      have distinct := (built.coherent recordType member).distinct
      obtain ⟨valueOf, _, _, rfl⟩ :=
        (RecordType.construct_eq_ok_iff distinct supplied record).1 constructed
      refine ⟨⟨distinct, ⟨valueOf, rfl⟩, ?_, List.nodup_nil⟩, rfl⟩
      rw [extras]
      cases recordType.isOpen <;> exact List.nodup_nil

/-- Setting fields and editing kept entries, any number of times, keeps the shape and the keys of
the input. -/
theorem Begins.run {keys : List String} (begins : Begins keys record)
    (edits : List (Edit Payload)) :
    (edits.foldl Record.perform record).Shaped ∧
      (edits.foldl Record.perform record).layout = keys := by
  obtain ⟨shaped, layout⟩ := begins.shaped_and_layout
  clear begins
  induction edits generalizing record with
  | nil => exact ⟨shaped, layout⟩
  | cons edit rest inductionHypothesis =>
      exact inductionHypothesis (shaped.perform edit) ((layout_perform edit).trans layout)

/-! ## Keys and values of the map -/

/-- Whether a field is left out of the map. -/
def strips (record : Record (Typed Payload)) (defaults : DefaultFields)
    (field : Field (Typed Payload)) : Bool :=
  (record.get? field.name).any (field.strips defaults)

/-- The names of the declared fields that are written, in order. -/
def writtenFields (record : Record (Typed Payload)) (defaults : DefaultFields) : List String :=
  (record.recordType.fields.filter fun field => !record.strips defaults field).map Field.name

/-- The names of the declared fields that are left out. -/
def strippedFields (record : Record (Typed Payload)) (defaults : DefaultFields) : List String :=
  (record.recordType.fields.filter fun field => record.strips defaults field).map Field.name

/-- The kept keys that are no left-out fields, and then the written fields that are not kept
keys. -/
def writtenKeys (record : Record (Typed Payload)) (defaults : DefaultFields) : List String :=
  ((Entries.keys record.extras).filter fun key => !(record.strippedFields defaults).contains key) ++
    (record.writtenFields defaults).filter fun key => !(Entries.keys record.extras).contains key

/-- The output is what the record stands for, with the keys of the input in front. -/
structure WrittenAs (record : Record (Typed Payload)) (registry : Registry Payload)
    (defaults : DefaultFields) (inputKeys : List String) (output : Entries Value) : Prop where
  distinct : (Entries.keys output).Nodup
  keys : Entries.keys output =
    (inputKeys.filter fun key => (record.writtenKeys defaults).contains key) ++
      (record.writtenKeys defaults).filter fun key => !inputKeys.contains key
  fields : ∀ name ∈ record.writtenFields defaults, ∃ value raw, record.get? name = some value ∧
    registry.unstructure defaults value = .ok raw ∧ output.lookup name = some raw
  others : ∀ key ∈ Entries.keys output, key ∉ record.writtenFields defaults →
    output.lookup key = record.extras.lookup key
  /-- Without left-out fields, a key is there exactly if the record has it, with the value that it
  stands for in the record. -/
  complete : defaults = .written → ∀ key,
    (key ∈ Entries.keys output ↔ record.contains key = true) ∧
      (∀ value, record.lookup? key = some (.field value) →
        ∃ raw, registry.unstructure .written value = .ok raw ∧ output.lookup key = some raw) ∧
      ∀ raw, record.lookup? key = some (.extra raw) → output.lookup key = some raw

/-- What a record writes before it brings the keys into the order of the input: every field that
is not left out, over what it keeps. -/
structure Overlaid (record : Record (Typed Payload)) (registry : Registry Payload)
    (defaults : DefaultFields) (overlaid : Entries Value) : Prop where
  distinct : (Entries.keys overlaid).Nodup
  keys : Entries.keys overlaid = record.writtenKeys defaults
  fields : ∀ field ∈ record.recordType.fields, ∃ value, record.get? field.name = some value ∧
    if record.strips defaults field then
      overlaid.lookup field.name = none
    else
      ∃ raw, registry.unstructure defaults value = .ok raw ∧
        overlaid.lookup field.name = some raw
  others : ∀ key ∉ record.recordType.fields.map Field.name,
    overlaid.lookup key = record.extras.lookup key

theorem Shaped.overlaid (shaped : record.Shaped) {registry : Registry Payload}
    {defaults : DefaultFields} {raw : Value}
    (written : registry.unstructureRecord defaults record = .ok raw) :
    ∃ overlaid, raw = .map (Entries.arrange overlaid record.layout) ∧
      record.Overlaid registry defaults overlaid := by
  obtain ⟨distinct, ⟨valueOf, tabulated⟩, extrasDistinct, layoutDistinct⟩ := shaped
  obtain ⟨rawOf, computed, rfl⟩ := (Registry.unstructureRecord_eq_ok_iff distinct tabulated
    extrasDistinct layoutDistinct raw).1 written
  let output? : Field (Typed Payload) → Option Value :=
    fun field => field.output? defaults (valueOf field) (rawOf field)
  have held : ∀ field ∈ record.recordType.fields,
      record.get? field.name = some (valueOf field) := by
    intro field member
    rw [get?, tabulated]
    exact RecordType.lookup_table distinct valueOf member
  have sameOutput : ∀ field ∈ record.recordType.fields,
      output? field = if record.strips defaults field then none else some (rawOf field) := by
    intro field member
    rw [strips, held field member, Option.any_some]
    rfl
  refine ⟨_, rfl, Entries.nodup_keys_overwrite extrasDistinct, ?_, ?_, ?_⟩
  · have writtenNames : Entries.writtenNames Field.name output? record.recordType.fields =
        record.writtenFields defaults := by
      refine congrArg _ (List.filter_congr fun field member => ?_)
      rw [sameOutput field member]
      cases record.strips defaults field <;> rfl
    have droppedNames : Entries.droppedNames Field.name output? record.recordType.fields =
        record.strippedFields defaults := by
      refine congrArg _ (List.filter_congr fun field member => ?_)
      rw [sameOutput field member]
      cases record.strips defaults field <;> rfl
    rw [Entries.keys_overwrite extrasDistinct distinct, writtenNames, droppedNames]
    rfl
  · intro field member
    refine ⟨valueOf field, held field member, ?_⟩
    rw [Entries.lookup_overwrite extrasDistinct distinct member, strips, held field member,
      Option.any_some]
    split
    · next strips => exact Field.output?_of_strips strips _
    · next keeps =>
        rw [Bool.not_eq_true] at keeps
        exact ⟨rawOf field, computed field member keeps, Field.output?_of_keeps keeps _⟩
  · exact fun key unnamed => Entries.lookup_overwrite_of_not_mem extrasDistinct unnamed

/-- With all fields written, what a key stands for in the record is what it leads to. -/
theorem Overlaid.lookup_written (shaped : record.Shaped) {registry : Registry Payload}
    {overlaid : Entries Value} (isOverlaid : record.Overlaid registry .written overlaid)
    (key : String) :
    match record.lookup? key with
    | some (.field value) =>
        ∃ raw, registry.unstructure .written value = .ok raw ∧ overlaid.lookup key = some raw
    | some (.extra raw) => overlaid.lookup key = some raw
    | none => overlaid.lookup key = none := by
  by_cases declared : key ∈ record.recordType.fields.map Field.name
  · obtain ⟨field, member, rfl⟩ := List.mem_map.1 declared
    obtain ⟨value, held, written⟩ := isOverlaid.fields field member
    rw [strips, held, Option.any_some, Field.strips_written, if_neg Bool.false_ne_true] at written
    rw [lookup?, held]
    exact written
  · obtain ⟨valueOf, tabulated⟩ := shaped.filled
    have noField : record.get? key = none := by
      rw [get?, Entries.lookup_eq_none_iff, tabulated, RecordType.keys_table]
      exact declared
    rw [lookup?, noField, isOverlaid.others key declared]
    cases record.extras.lookup key <;> rfl

/-- Bringing the keys into the order of the input leaves the values alone. -/
theorem Overlaid.writtenAs (shaped : record.Shaped) {registry : Registry Payload}
    {defaults : DefaultFields} {overlaid : Entries Value}
    (isOverlaid : record.Overlaid registry defaults overlaid) :
    record.WrittenAs registry defaults record.layout (Entries.arrange overlaid record.layout) := by
  refine ⟨Entries.nodup_keys_arrange isOverlaid.distinct shaped.layoutDistinct, ?_, ?_, ?_, ?_⟩
  · rw [Entries.keys_arrange, isOverlaid.keys]
    refine congrArg₂ _ (List.filter_congr fun key _ => ?_) rfl
    rw [Bool.eq_iff_iff, Entries.contains_iff, isOverlaid.keys, List.contains_iff_mem]
  · intro name member
    obtain ⟨field, fieldMember, rfl⟩ := List.mem_map.1 member
    obtain ⟨declared, keeps⟩ := List.mem_filter.1 fieldMember
    obtain ⟨value, held, written⟩ := isOverlaid.fields field declared
    rw [Bool.not_eq_true'] at keeps
    rw [keeps, if_neg Bool.false_ne_true] at written
    obtain ⟨raw, computed, found⟩ := written
    exact ⟨value, raw, held, computed, (Entries.lookup_arrange _ _ _).trans found⟩
  · intro key member unwritten
    rw [← Entries.isSome_lookup_iff, Entries.lookup_arrange] at member
    rw [Entries.lookup_arrange]
    by_cases declared : key ∈ record.recordType.fields.map Field.name
    · obtain ⟨field, fieldMember, rfl⟩ := List.mem_map.1 declared
      obtain ⟨value, _, written⟩ := isOverlaid.fields field fieldMember
      split at written
      · rw [written] at member
        contradiction
      · next keeps =>
          refine absurd (List.mem_map_of_mem (List.mem_filter.2 ⟨fieldMember, ?_⟩)) unwritten
          rw [Bool.not_eq_true']
          exact Bool.eq_false_iff.2 keeps
    · exact isOverlaid.others key declared
  · rintro rfl key
    have lookup := isOverlaid.lookup_written shaped key
    rw [← Entries.isSome_lookup_iff, Entries.lookup_arrange, contains]
    cases standsFor : record.lookup? key with
    | none =>
        rw [standsFor] at lookup
        simp [lookup]
    | some entry =>
        rw [standsFor] at lookup
        cases entry with
        | field value =>
            obtain ⟨raw, computed, found⟩ := lookup
            refine ⟨by rw [found]; simp, ?_, nofun⟩
            rintro _ ⟨rfl⟩
            exact ⟨raw, computed, found⟩
        | extra raw =>
            refine ⟨by rw [lookup]; simp, nofun, ?_⟩
            rintro _ ⟨rfl⟩
            exact lookup

/-- However a record came into being and whatever was done to it since, it is written, if it can
be, as the map that the keys of its input, its kept entries and its fields describe. -/
theorem Begins.overlay_of_edits {inputKeys : List String} {start : Record (Typed Payload)}
    (begins : Begins inputKeys start) (edits : List (Edit Payload)) (registry : Registry Payload)
    (defaults : DefaultFields) (raw : Value)
    (written : registry.unstructureRecord defaults (edits.foldl Record.perform start) = .ok raw) :
    ∃ output, raw = .map output ∧
      (edits.foldl Record.perform start).WrittenAs registry defaults inputKeys output := by
  obtain ⟨shaped, layout⟩ := begins.run edits
  obtain ⟨overlaid, rfl, isOverlaid⟩ := shaped.overlaid written
  refine ⟨_, rfl, ?_⟩
  rw [← layout]
  exact isOverlaid.writtenAs shaped

end Record

namespace Sample

/-- The collar is taken off and put on again, the pet finds an owner, and a kept entry is named
like the field of the age. -/
def petEdits : List (Edit String) :=
  [.extras (.remove "collar"), .extras (.insert "owner" (.string "Ann")),
    .extras (.insert "age" (.integer 9)), .extras (.insert "collar" (.bool false))]

def editedOutput : Value :=
  .map [("collar", .bool false), ("name", .string "Tom"), ("tag", .string "T-1"),
    ("owner", .string "Ann")]

theorem begins_pet : Record.Begins ["collar", "name", "tag"] pet :=
  .structured ⟨_, registry, built_registry, List.mem_singleton_self _⟩ (by decide)
    structureRecord_petInput

theorem overlay_petEdits :
    registry.unstructureRecord .stripped (petEdits.foldl Record.perform pet) = .ok editedOutput ∧
      ∃ output, editedOutput = .map output ∧
        (petEdits.foldl Record.perform pet).WrittenAs registry .stripped
          ["collar", "name", "tag"] output := by
  have written : registry.unstructureRecord .stripped (petEdits.foldl Record.perform pet) =
      .ok editedOutput := rfl
  exact ⟨written, begins_pet.overlay_of_edits petEdits registry .stripped editedOutput written⟩

end Sample

end Recast
