import Recast.Proofs.Record.Reached
import Recast.Proofs.Registry.Construction

/-!
# Setting a field and making the record again

A record whose field is set is the record that is made anew with the new value supplied for the
field, and where one of the two is refused the other is refused with the same error.  For when
everything else is as it was, the new value is the only thing left to object to: to its name if no
field has it, else to what the validator or the type of the field says of it.  A record that was
read from a map is read anew from the map with an entry for the field; setting does not touch the
key order that a record remembers.
-/

namespace Recast

namespace Entries

variable {α : Type}

/-- An entry that is dropped does not show among those that are kept. -/
theorem filter_insert_of_drop (keep : String → Bool) {key : String} (drop : keep key = false)
    (entries : Entries α) (value : α) :
    (insert entries key value).filter (fun entry => keep entry.1) =
      entries.filter fun entry => keep entry.1 := by
  induction entries with
  | nil => simp [insert, drop]
  | cons entry rest inductionHypothesis =>
      obtain ⟨first, old⟩ := entry
      by_cases same : first = key
      · subst same
        simp [insert, drop]
      · simp only [insert, if_neg same, List.filter_cons, inductionHypothesis]

end Entries

variable {Payload : Type} [BEq Payload]

/-! ## Assembling with another value for one field -/

namespace RecordType

variable {recordType : RecordType (Typed Payload)} {supplied values : Entries (Typed Payload)}
  {typeCheck : TypeCheck}

/-- What becomes of a value that is given to the field of the name, if there is one: the error, or
what `taken` makes of it. -/
def give {α : Type} (recordType : RecordType (Typed Payload)) (typeCheck : TypeCheck)
    (name : String) (value : Typed Payload) (taken : α) : Except StructureError α :=
  match recordType.field? name with
  | some field => (field.checkSupplied .root typeCheck value).map fun _ => taken
  | none => .error (.atTop (recordType.unknownField name))

theorem fieldValue_insert_of_ne {field : Field (Typed Payload)} {name : String}
    (different : field.name ≠ name) (value : Typed Payload) :
    recordType.fieldValue .root typeCheck (Entries.insert supplied name value) field =
      recordType.fieldValue .root typeCheck supplied field := by
  rw [fieldValue, fieldValue, Entries.lookup_insert, if_neg different]

theorem fieldValue_insert_self (field : Field (Typed Payload)) (value : Typed Payload) :
    recordType.fieldValue .root typeCheck (Entries.insert supplied field.name value) field =
      (field.checkSupplied .root typeCheck value).map fun _ => value := by
  rw [fieldValue, Entries.lookup_insert_self]
  dsimp only
  cases field.checkSupplied .root typeCheck value <;> rfl

/-- Beside values that can be assembled, a value without a field is what is objected to. -/
theorem assemble_insert_of_undeclared (distinct : recordType.DistinctFields)
    (assembled : recordType.assemble .root typeCheck supplied = .ok values) {name : String}
    (undeclared : recordType.field? name = none) (value : Typed Payload) :
    recordType.assemble .root typeCheck (Entries.insert supplied name value) =
      .error (.atTop (recordType.unknownField name)) := by
  obtain ⟨valueOf, given, declared, rfl⟩ :=
    (assemble_eq_ok_iff distinct typeCheck supplied values).1 assembled
  have notDeclared : recordType.declares name = false := by
    rw [declares, undeclared]
    rfl
  have fresh : name ∉ Entries.keys supplied := by
    intro member
    rw [declared name member] at notDeclared
    contradiction
  rw [assemble_eq_error_iff]
  right
  constructor
  · intro field member
    have different : field.name ≠ name := by
      rintro rfl
      rw [(declares_iff field.name).2 (List.mem_map_of_mem member)] at notDeclared
      contradiction
    exact ⟨valueOf field, (fieldValue_insert_of_ne different value).trans (given field member)⟩
  · refine ⟨(name, value), ?_, rfl⟩
    rw [Entries.insert_eq_append fresh, List.find?_append,
      find?_undeclared_eq_none_iff.2 declared, Option.none_or, List.find?_singleton, notDeclared]
    rfl

omit [BEq Payload] in
theorem declares_of_mem_keys_insert
    (declared : ∀ key ∈ Entries.keys supplied, recordType.declares key = true)
    {field : Field (Typed Payload)} (member : field ∈ recordType.fields)
    (value : Typed Payload) :
    ∀ key ∈ Entries.keys (Entries.insert supplied field.name value),
      recordType.declares key = true := by
  intro key keyMember
  rw [Entries.keys_insert] at keyMember
  split at keyMember
  · exact declared key keyMember
  · rcases List.mem_append.1 keyMember with earlier | new
    · exact declared key earlier
    · rw [List.mem_singleton.1 new]
      exact (declares_iff field.name).2 (List.mem_map_of_mem member)

/-- Beside values that can be assembled, a new value for a declared field is assembled as the field
takes it. -/
theorem assemble_insert_of_declared (distinct : recordType.DistinctFields)
    (assembled : recordType.assemble .root typeCheck supplied = .ok values)
    {field : Field (Typed Payload)} (member : field ∈ recordType.fields)
    (value : Typed Payload) :
    recordType.assemble .root typeCheck (Entries.insert supplied field.name value) =
      (field.checkSupplied .root typeCheck value).map fun _ =>
        Entries.insert values field.name value := by
  obtain ⟨valueOf, given, declared, rfl⟩ :=
    (assemble_eq_ok_iff distinct typeCheck supplied values).1 assembled
  have here :
      recordType.fieldValue .root typeCheck (Entries.insert supplied field.name value) field =
        (field.checkSupplied .root typeCheck value).map fun _ => value :=
    fieldValue_insert_self field value
  cases checked : field.checkSupplied .root typeCheck value with
  | error error =>
      rw [checked] at here
      refine (assemble_eq_error_iff _ _ _).2 (.inl ?_)
      obtain ⟨before, after, split⟩ := List.append_of_mem member
      refine ⟨before, field, after, split, fun earlier earlierMember => ?_, here⟩
      have different : earlier.name ≠ field.name := by
        rw [DistinctFields, split, List.map_append, List.nodup_append] at distinct
        exact distinct.2.2 _ (List.mem_map_of_mem earlierMember) _ List.mem_cons_self
      have earlierField : earlier ∈ recordType.fields :=
        split ▸ List.mem_append_left _ earlierMember
      exact ⟨valueOf earlier,
        (fieldValue_insert_of_ne different value).trans (given earlier earlierField)⟩
  | ok _ =>
      rw [checked] at here
      refine (assemble_eq_ok_iff distinct _ _ _).2
        ⟨fun other => if other.name = field.name then value else valueOf other, ?_, ?_, ?_⟩
      · intro other otherMember
        dsimp only
        by_cases same : other.name = field.name
        · rw [List.inj_on_of_nodup_map distinct otherMember member same, if_pos rfl]
          exact here
        · rw [if_neg same, fieldValue_insert_of_ne same]
          exact given other otherMember
      · exact declares_of_mem_keys_insert declared member value
      · exact insert_table distinct valueOf member value

/-- Assembling with another value for one name differs from assembling without it by what becomes
of that value. -/
theorem assemble_insert (distinct : recordType.DistinctFields)
    (assembled : recordType.assemble .root typeCheck supplied = .ok values) (name : String)
    (value : Typed Payload) :
    recordType.assemble .root typeCheck (Entries.insert supplied name value) =
      recordType.give typeCheck name value (Entries.insert values name value) := by
  rw [give]
  cases declared : recordType.field? name with
  | none => exact assemble_insert_of_undeclared distinct assembled declared value
  | some field =>
      obtain ⟨member, rfl⟩ := (field?_eq_some_iff distinct name field).1 declared
      exact assemble_insert_of_declared distinct assembled member value

/-- Values that are supplied field by field, with another one for a declared field, are assembled as
that field takes its value. -/
theorem assemble_collect_update (distinct : recordType.DistinctFields)
    {suppliedOf : Field (Typed Payload) → Option (Typed Payload)}
    (assembled : recordType.assemble .root typeCheck
      (Entries.collect Field.name suppliedOf recordType.fields) = .ok values)
    {field : Field (Typed Payload)} (member : field ∈ recordType.fields)
    (value : Typed Payload) :
    recordType.assemble .root typeCheck (Entries.collect Field.name
        (fun other => if other.name = field.name then some value else suppliedOf other)
        recordType.fields) =
      (field.checkSupplied .root typeCheck value).map fun _ =>
        Entries.insert values field.name value := by
  have declared : ∀ {givenOf : Field (Typed Payload) → Option (Typed Payload)},
      ∀ key ∈ Entries.keys (Entries.collect Field.name givenOf recordType.fields),
        recordType.declares key = true :=
    fun key keyMember => (declares_iff key).2 (Entries.mem_keys_collect keyMember)
  rw [← assemble_insert_of_declared distinct assembled member value]
  apply assemble_congr
  · intro other otherMember
    rw [fieldValue, fieldValue, Entries.lookup_collect distinct _ otherMember,
      Entries.lookup_insert, Entries.lookup_collect distinct suppliedOf otherMember]
  · exact declared
  · exact declares_of_mem_keys_insert declared member value

end RecordType

/-! ## Setting -/

namespace Record

/-- A record that has a value for each declared field, and no others, is set by giving the value to
the field of the name. -/
theorem set_eq (record : Record (Typed Payload))
    (keys : Entries.keys record.values = record.recordType.fields.map Field.name)
    (name : String) (value : Typed Payload) :
    (record.set name value).map Prod.snd =
      record.recordType.give .checked name value
        { record with values := Entries.insert record.values name value } := by
  rw [set, RecordType.give]
  cases declared : record.recordType.field? name with
  | none => rfl
  | some field =>
      have present : (record.get? name).isSome = true := by
        rw [get?, Entries.isSome_lookup_iff, keys]
        refine (RecordType.declares_iff name).1 ?_
        rw [RecordType.declares, declared]
        rfl
      obtain ⟨old, held⟩ := Option.isSome_iff_exists.1 present
      rw [held]
      dsimp only
      cases field.checkSupplied .root .checked value <;> rfl

/-- The record with no key order remembered for itself. -/
def withoutOwnLayout {α : Type} (record : Record α) : Record α :=
  { record with layout := [] }

end Record

/-- Setting a field of a constructed record is constructing the record with that value. -/
theorem RecordType.set_construct {recordType : RecordType (Typed Payload)}
    (distinct : recordType.DistinctFields) {supplied : Entries (Typed Payload)}
    {record : Record (Typed Payload)} (constructed : recordType.construct supplied = .ok record)
    (name : String) (value : Typed Payload) :
    (record.set name value).map Prod.snd =
      recordType.construct (Entries.insert supplied name value) := by
  obtain ⟨values, assembled, made⟩ := (Outcome.bind_eq_ok_iff _ _ _).1 constructed
  cases made
  obtain ⟨valueOf, _, _, tabulated⟩ :=
    (assemble_eq_ok_iff distinct .checked supplied values).1 assembled
  have keys : Entries.keys values = recordType.fields.map Field.name := by
    rw [tabulated, keys_table]
  rw [Record.set_eq _ keys, construct, assemble_insert distinct assembled, give, give]
  cases recordType.field? name with
  | none => rfl
  | some field =>
      dsimp only
      cases field.checkSupplied .root .checked value <;> rfl

namespace Registry

variable {alphabet : Text.Alphabet} {registry : Registry Payload}

/-- Beside the input of one field, an entry of its name is no input. -/
theorem supplyFrom_insert_of_ne {field : Field (Typed Payload)} {name : String}
    (different : field.name ≠ name) (entries : Entries Value) (raw : Value) :
    field.supplyFrom .root (registry.entryCandidates (Entries.insert entries name raw)) =
      field.supplyFrom .root (registry.entryCandidates entries) := by
  rw [supplyFrom_eq, supplyFrom_eq, Field.input?, Field.input?, Entries.lookup_insert,
    if_neg different]

theorem supplyFrom_insert_self {field : Field (Typed Payload)} {raw : Value}
    {value : Typed Payload} (present : raw.isNull = false)
    (structured : registry.structureAs raw field.type = .ok value) (entries : Entries Value) :
    field.supplyFrom .root (registry.entryCandidates (Entries.insert entries field.name raw)) =
      .ok (some value) := by
  have input : field.input? (Entries.insert entries field.name raw) = some raw := by
    rw [Field.input?_of_lookup (Entries.lookup_insert_self entries field.name raw), present]
    rfl
  have notReported : field.reportsNull raw = false := by
    rw [Field.reportsNull, present]
    rfl
  rw [supplyFrom_eq, input]
  simp only [notReported, Bool.false_eq_true, if_false, structured]
  rfl

/-- An entry for a field that is read supplies its value to the field and nothing else. -/
theorem supplyAll_insert {recordType : RecordType (Typed Payload)}
    (distinct : recordType.DistinctFields) {entries : Entries Value}
    {suppliedOf : Field (Typed Payload) → Option (Typed Payload)}
    (fromEntries : ∀ field ∈ recordType.fields,
      field.supplyFrom .root (registry.entryCandidates entries) = .ok (suppliedOf field))
    {field : Field (Typed Payload)} (member : field ∈ recordType.fields) {raw : Value}
    {value : Typed Payload} (present : raw.isNull = false)
    (structured : registry.structureAs raw field.type = .ok value) :
    Field.supplyAll .root (registry.entryCandidates (Entries.insert entries field.name raw))
        recordType.fields =
      .ok (Entries.collect Field.name
        (fun other => if other.name = field.name then some value else suppliedOf other)
        recordType.fields) := by
  refine (Field.supplyAll_eq_ok_iff _ _ _).2 ⟨_, fun other otherMember => ?_, rfl⟩
  by_cases same : other.name = field.name
  · rw [if_pos same, List.inj_on_of_nodup_map distinct otherMember member same]
    exact supplyFrom_insert_self present structured entries
  · rw [if_neg same, supplyFrom_insert_of_ne same]
    exact fromEntries other otherMember

/-- Reading a map anew with an entry for a field gives the value of the entry to the field. -/
theorem structureInput_insert (coherent : registry.Coherent)
    {recordType : RecordType (Typed Payload)} (distinct : recordType.DistinctFields)
    {entries : Entries Value} {record : Record (Typed Payload)}
    (read : recordType.structureInput .root (registry.entryCandidates entries) = .ok record)
    {field : Field (Typed Payload)} (member : field ∈ recordType.fields) {raw : Value}
    {value : Typed Payload} (present : raw.isNull = false)
    (structured : registry.structureAs raw field.type = .ok value) :
    (recordType.structureInput .root
        (registry.entryCandidates (Entries.insert entries field.name raw))).map
          Record.withoutOwnLayout =
      (field.checkSupplied .root .checked value).map fun _ =>
        { record with
          values := Entries.insert record.values field.name value
          layout := [] } := by
  rw [structureInput_eq] at read ⊢
  simp only [Outcome.bind_eq_ok_iff] at read
  obtain ⟨supplied, suppliedOk, values, assembled, made⟩ := read
  cases made
  obtain ⟨suppliedOf, fromEntries, rfl⟩ :=
    (Field.supplyAll_eq_ok_iff _ recordType.fields supplied).1 suppliedOk
  have suppliedAgain := supplyAll_insert distinct fromEntries member present structured
  have admitted := (structures_of_ok coherent structured).admits
  have assembledAgain := RecordType.assemble_collect_update distinct assembled member value
  have notKept : (!recordType.declares field.name) = false := by
    rw [(RecordType.declares_iff field.name).2 (List.mem_map_of_mem member)]
    rfl
  rw [suppliedAgain]
  change Except.map _ (recordType.assemble .root .trusted _ >>= _) = _
  rw [assembledAgain, Field.checkSupplied_eq_of_admits (fun _ => admitted) .checked,
    Entries.filter_insert_of_drop (fun key => !recordType.declares key) notKept]
  cases field.checkSupplied .root .trusted value <;> rfl

/-- A field of a record takes a value exactly when the record can be made again with it. -/
theorem set_commutes_with_making (built : registry.Built alphabet) {name : String}
    {recordType : RecordType (Typed Payload)}
    (registered : registry.record? name = some recordType) :
    (∀ entries record, registry.structureRecord name (.map entries) = .ok record →
      ∀ field ∈ recordType.fields, ∀ raw value, raw.isNull = false →
        registry.structureAs raw field.type = .ok value →
        (record.set field.name value).map (fun changed => changed.2.withoutOwnLayout) =
          (registry.structureRecord name (.map (Entries.insert entries field.name raw))).map
            Record.withoutOwnLayout) ∧
      ∀ supplied record, recordType.construct supplied = .ok record → ∀ key value,
        (record.set key value).map Prod.snd =
          recordType.construct (Entries.insert supplied key value) := by
  have coherent := built.coherent
  have distinct := (coherent.soundIn registered).distinct
  constructor
  · intro entries record structured field member raw value present structuredValue
    simp only [structureRecord, registered, structureWith] at structured ⊢
    have again := structureInput_insert coherent distinct structured member present structuredValue
    obtain ⟨valueOf, _, rfl⟩ :=
      (structureInput_eq_ok_iff registry distinct entries record).1 structured
    have isSet := Record.set_eq (recordType.reading valueOf entries)
      (RecordType.keys_table valueOf) field.name value
    have declared : recordType.field? field.name = some field :=
      (RecordType.field?_eq_some_iff distinct field.name field).2 ⟨member, rfl⟩
    calc
      _ = (((recordType.reading valueOf entries).set field.name value).map Prod.snd).map
            Record.withoutOwnLayout := by
          cases (recordType.reading valueOf entries).set field.name value <;> rfl
      _ = _ := by
          rw [isSet, again, RecordType.give]
          simp only [RecordType.reading, declared]
          cases field.checkSupplied .root .checked value <;> rfl
  · intro supplied record constructed key value
    exact RecordType.set_construct distinct constructed key value

end Registry

/-! ## A pet that loses its name -/

namespace Sample

/-- The pet that is read from its entries; its age was not given. -/
def stray : Record (Typed String) where
  recordType := petType
  values := [("name", .str "Rex"), ("age", .int 1), ("tag", .custom "Tag" "T-2")]
  extras? := some [("chip", .integer 7)]
  layout := ["name", "chip", "age", "tag"]

/-- An empty name is refused with one error, whether it is set or read.  A constructed pet refuses
a name that its type does not declare, as construction does. -/
theorem set_commutes_stray :
    registry.structureRecord "Pet" (.map strayEntries) = .ok stray ∧
      (∃ error, stray.set "name" (.str "") = .error error ∧
        registry.structureRecord "Pet"
          (.map (Entries.insert strayEntries "name" (.string ""))) = .error error) ∧
      ∃ made, petType.construct straySupplied = .ok made ∧
        (made.set "owner" .missing).map Prod.snd =
          petType.construct (Entries.insert straySupplied "owner" .missing) := by
  have read : registry.structureRecord "Pet" (.map strayEntries) = .ok stray := rfl
  obtain ⟨setIsRead, setIsConstructed⟩ :=
    Registry.set_commutes_with_making built_registry (show registry.record? "Pet" = _ from rfl)
  have agrees : (stray.set "name" (.str "")).map (fun changed => changed.2.withoutOwnLayout) =
      (registry.structureRecord "Pet"
        (.map (Entries.insert strayEntries "name" (.string "")))).map Record.withoutOwnLayout :=
    setIsRead strayEntries stray read _ List.mem_cons_self (.string "") (.str "") rfl rfl
  have refused : stray.set "name" (.str "") =
      .error (.under "name" (.atTop (.invalid (.empty "name")))) := rfl
  rw [refused] at agrees
  have refusedToo := (Outcome.map_eq_error_iff _ _ _).1 agrees.symm
  obtain ⟨made, constructed⟩ : ∃ made, petType.construct straySupplied = .ok made := ⟨_, rfl⟩
  exact ⟨read, ⟨_, refused, refusedToo⟩, made, constructed,
    setIsConstructed straySupplied made constructed "owner" .missing⟩

end Sample

end Recast
