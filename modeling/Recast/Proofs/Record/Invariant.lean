import Recast.Proofs.Record.Reached
import Recast.Registry.Unstructuring

/-!
# The invariant of records

What can be relied on for every record that is reached and for every record in it: its fields
are those that its type declares, each with a value that conforms to the type of the field and
passes its validator, and it keeps entries exactly if its type is open.  Setting a field changes
that field only, or nothing.
-/

namespace Recast

variable {Payload : Type}

theorem Validator.check_eq_ok_iff (validator : Validator) (name : String)
    (value : Typed Payload) :
    validator.check name value = .ok () ↔
      value.isMissing = false ∧ (validator = .nonEmpty → value.size? ≠ some 0) := by
  rw [check]
  cases missing : value.isMissing with
  | true => simp
  | false =>
      by_cases empty : validator = .nonEmpty ∧ value.size? = some 0
      · simp [empty]
      · rw [if_neg Bool.false_ne_true, if_neg empty]
        simpa using empty

variable [BEq Payload]

namespace Record

/-- What holds of every record throughout its life. -/
structure Consistent (record : Record (Typed Payload)) : Prop where
  keys : Entries.keys record.values = record.recordType.fields.map Field.name
  admitted : ∀ field ∈ record.recordType.fields,
    ∃ value, record.get? field.name = some value ∧ field.type.admits value = true
  setsDistinct : ∀ items, Occurs Typed.parts (.set items) (.record record) →
    items.Pairwise fun earlier later => (earlier == later) = false
  validated : ∀ field ∈ record.recordType.fields, ∀ validator,
    field.validator? = some validator → ∀ value, record.get? field.name = some value →
      validator.check field.name value = .ok ()
  nonEmpty : ∀ field ∈ record.recordType.fields, field.isRequired = true →
    Validator.compile field.type = some .nonEmpty → ∀ value,
      record.get? field.name = some value → ∃ size, value.size? = some size ∧ 0 < size
  present : ∀ field ∈ record.recordType.fields, field.isRequired = true →
    (Validator.compile field.type).isSome → ∀ value,
      record.get? field.name = some value → value.isMissing = false
  extrasIfOpen : record.extras?.isSome = record.recordType.isOpen
  onlyDeclared : ∀ name, (record.get? name).isSome = (record.recordType.field? name).isSome

/-- The second record has a new value in one field and is the first one otherwise. -/
structure ChangedAt (record : Record (Typed Payload)) (name : String) (value : Typed Payload)
    (changed : Record (Typed Payload)) : Prop where
  new : changed.get? name = some value
  others : ∀ other, other ≠ name → changed.get? other = record.get? other
  keys : Entries.keys changed.values = Entries.keys record.values
  extras : changed.extras? = record.extras?
  layout : changed.layout = record.layout
  recordType : changed.recordType = record.recordType

variable {record : Record (Typed Payload)}

/-- The value of a declared field, which is accepted by the field. -/
theorem Regular.exists_accepted (regular : record.Regular) {field : Field (Typed Payload)}
    (member : field ∈ record.recordType.fields) :
    ∃ value, record.get? field.name = some value ∧ field.Accepts value := by
  obtain ⟨valueOf, tabulated, accepted⟩ := regular.filled
  refine ⟨valueOf field, ?_, accepted field member⟩
  rw [get?, tabulated, RecordType.lookup_table regular.wellDeclared.distinct valueOf member]

theorem Regular.accepts (regular : record.Regular) {field : Field (Typed Payload)}
    (member : field ∈ record.recordType.fields) {value : Typed Payload}
    (found : record.get? field.name = some value) :
    field.Accepts value := by
  obtain ⟨other, otherFound, accepted⟩ := regular.exists_accepted member
  rw [otherFound] at found
  cases found
  exact accepted

theorem Regular.keys (regular : record.Regular) :
    Entries.keys record.values = record.recordType.fields.map Field.name := by
  obtain ⟨valueOf, tabulated, _⟩ := regular.filled
  rw [tabulated, RecordType.keys_table]

theorem Regular.isSome_get? (regular : record.Regular) (name : String) :
    (record.get? name).isSome = (record.recordType.field? name).isSome := by
  rw [Bool.eq_iff_iff, get?, Entries.isSome_lookup_iff, regular.keys]
  exact (RecordType.declares_iff name).symm

/-- A value that a required field accepts passes the validator that its type calls for. -/
theorem check_of_accepts (regular : record.Regular) {field : Field (Typed Payload)}
    (member : field ∈ record.recordType.fields) (required : field.isRequired = true)
    {validator : Validator} (compiled : Validator.compile field.type = some validator)
    {value : Typed Payload} (accepted : field.Accepts value) :
    validator.check field.name value = .ok () := by
  have attached : field.validator? = some validator := by
    rw [Field.isRequired, Bool.and_eq_true, Option.isNone_iff_eq_none] at required
    rw [← regular.wellDeclared.attached field member, Field.attachValidator, required.1]
    exact compiled
  have validated := accepted.1
  rw [Field.validate, attached] at validated
  exact validated

/-- Regularity gives all that can be relied on. -/
theorem consistent_of_regular (regular : (Typed.record record).Regular) :
    record.Consistent where
  keys := regular.here.keys
  admitted field member := by
    obtain ⟨value, found, accepted⟩ := regular.here.exists_accepted member
    exact ⟨value, found, accepted.2⟩
  setsDistinct items occurs := (Typed.allDistinct_iff items).1 (regular _ occurs)
  validated field member validator attached value found := by
    have validated := (regular.here.accepts member found).1
    rw [Field.validate, attached] at validated
    exact validated
  nonEmpty field member required compiled value found := by
    have accepted := regular.here.accepts member found
    have checked := check_of_accepts regular.here member required compiled accepted
    obtain ⟨size, sized⟩ := TypeExpr.exists_size_of_admits compiled accepted.2
    have notEmpty := ((Validator.check_eq_ok_iff _ _ _).1 checked).2 rfl
    refine ⟨size, sized, Nat.pos_of_ne_zero ?_⟩
    rintro rfl
    exact notEmpty sized
  present field member required compiled value found := by
    obtain ⟨validator, compiledTo⟩ := Option.isSome_iff_exists.1 compiled
    have accepted := regular.here.accepts member found
    have checked := check_of_accepts regular.here member required compiledTo accepted
    exact ((Validator.check_eq_ok_iff _ _ _).1 checked).1
  extrasIfOpen := regular.here.extrasIfOpen
  onlyDeclared := regular.here.isSome_get?

theorem changedAt_of_set {name : String} {value old : Typed Payload}
    {changed : Record (Typed Payload)} (isSet : record.set name value = .ok (old, changed)) :
    record.get? name = some old ∧ record.ChangedAt name value changed := by
  obtain ⟨field, _, found, _, rfl⟩ := (set_eq_ok_iff record name value old changed).1 isSet
  have present : name ∈ Entries.keys record.values := Entries.key_mem (Entries.mem_of_lookup found)
  refine ⟨found, ⟨?_, ?_, ?_, rfl, rfl, rfl⟩⟩
  · exact Entries.lookup_insert_self record.values name value
  · intro other different
    rw [get?, Entries.lookup_insert, if_neg different, get?]
  · rw [Entries.keys_insert, if_pos present]

/-- A regular record takes a value exactly if it declares a field that accepts it: no declared
field is without a value that could be replaced. -/
theorem exists_set_iff (regular : record.Regular) (name : String) (value : Typed Payload) :
    (∃ old changed, record.set name value = .ok (old, changed)) ↔
      ∃ field ∈ record.recordType.fields, field.name = name ∧ field.Accepts value := by
  have distinct := regular.wellDeclared.distinct
  constructor
  · rintro ⟨old, changed, isSet⟩
    obtain ⟨field, found, _, accepted, _⟩ := (set_eq_ok_iff record name value old changed).1 isSet
    obtain ⟨member, sameName⟩ := (RecordType.field?_eq_some_iff distinct name field).1 found
    exact ⟨field, member, sameName, accepted⟩
  · rintro ⟨field, member, rfl, accepted⟩
    obtain ⟨old, found, _⟩ := regular.exists_accepted member
    have declared := (RecordType.field?_eq_some_iff distinct field.name field).2 ⟨member, rfl⟩
    exact ⟨old, _, (set_eq_ok_iff record field.name value old _).2
      ⟨field, declared, found, accepted, rfl⟩⟩

end Record

/-- Every record in a reached record is consistent.  A value that a field refuses leaves the
record and its untyped form as they were; a value that is taken replaces the old value, which is
given back, and nothing else. -/
theorem Reached.invariant {record inner : Record (Typed Payload)} (reached : Reached record)
    (occurs : Occurs Typed.parts (.record inner) (.record record)) :
    inner.Consistent ∧
      ∀ name value,
        ((∃ old changed, inner.set name value = .ok (old, changed)) ↔
          ∃ field ∈ inner.recordType.fields, field.name = name ∧ field.Accepts value) ∧
        (∀ error, inner.set name value = .error error →
          inner.perform (.set name value) = inner ∧
            ∀ (registry : Registry Payload) defaults,
              registry.unstructureRecord defaults (inner.perform (.set name value)) =
                registry.unstructureRecord defaults inner) ∧
        ∀ old changed, inner.set name value = .ok (old, changed) →
          inner.perform (.set name value) = changed ∧ inner.get? name = some old ∧
            inner.ChangedAt name value changed := by
  have regular := reached.regular.within occurs
  refine ⟨Record.consistent_of_regular regular, fun name value => ⟨?_, ?_, ?_⟩⟩
  · exact Record.exists_set_iff regular.here name value
  · intro error refused
    have unchanged : inner.perform (.set name value) = inner := by
      rw [Record.perform, refused]
    exact ⟨unchanged, fun registry defaults => by rw [unchanged]⟩
  · intro old changed isSet
    have performed : inner.perform (.set name value) = changed := by
      rw [Record.perform, isSet]
    exact ⟨performed, Record.changedAt_of_set isSet⟩

/-- A pet that was read is consistent, and its age can be taken away. -/
theorem consistent_pet :
    Reached Sample.pet ∧ Sample.pet.Consistent ∧
      ∃ old changed, Sample.pet.set "age" .missing = .ok (old, changed) := by
  obtain ⟨consistent, afterSet⟩ := Reached.invariant Sample.reached_pet .self
  refine ⟨Sample.reached_pet, consistent, (afterSet "age" .missing).1.2 ?_⟩
  exact ⟨_, List.mem_cons_of_mem _ List.mem_cons_self, rfl, rfl, rfl⟩

end Recast
