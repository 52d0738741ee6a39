import Recast.Proofs.Entries.Arrangement
import Recast.Proofs.Outcome
import Recast.Record.Assembly

/-!
# What assembling and changing a record yields

Each operation on records succeeds under a condition on every field, which its lemma states
together with the result.  The values of the fields are given as a table over the declared
fields.
-/

namespace Recast

variable {Payload : Type}

/-- All mappings in the type have text keys. -/
def TypeExpr.TextKeyed : TypeExpr → Prop
  | .optional inner => inner.TextKeyed
  | .sequence item => item.TextKeyed
  | .set item => item.TextKeyed
  | .mapping key value => key = .str ∧ value.TextKeyed
  | _ => True

theorem TypeExpr.exists_eq_optional {type : TypeExpr} (optional : type.isOptional = true) :
    ∃ inner, type = .optional inner := by
  cases type with
  | optional inner => exact ⟨inner, rfl⟩
  | _ => contradiction

namespace RecordType

variable {α : Type} {recordType : RecordType α}

/-! ## Declared fields -/

/-- No two fields have the same name. -/
def DistinctFields (recordType : RecordType α) : Prop :=
  (recordType.fields.map Field.name).Nodup

/-- What a declaration makes sure of: no field is declared twice, mappings have text keys, and
validators are those that types and defaults call for. -/
structure WellDeclared (recordType : RecordType α) : Prop where
  distinct : recordType.DistinctFields
  textKeyed : ∀ field ∈ recordType.fields, field.type.TextKeyed
  attached : ∀ field ∈ recordType.fields, field.attachValidator = field

/-- The values of all declared fields under their names, in order. -/
def table (recordType : RecordType α) {β : Type} (valueOf : Field α → β) : Entries β :=
  Entries.tabulate Field.name valueOf recordType.fields

theorem declares_iff (name : String) :
    recordType.declares name = true ↔ name ∈ recordType.fields.map Field.name := by
  rw [declares, field?, List.find?_isSome, List.mem_map]
  constructor
  · rintro ⟨field, member, sameName⟩
    exact ⟨field, member, eq_of_beq sameName⟩
  · rintro ⟨field, member, rfl⟩
    exact ⟨field, member, BEq.rfl⟩

theorem field?_eq_some_iff (distinct : recordType.DistinctFields) (name : String)
    (field : Field α) :
    recordType.field? name = some field ↔ field ∈ recordType.fields ∧ field.name = name := by
  rw [field?]
  constructor
  · intro found
    exact ⟨List.mem_of_find?_eq_some found, by simpa using List.find?_some found⟩
  · rintro ⟨member, rfl⟩
    have some : (recordType.fields.find? fun other => other.name == field.name).isSome :=
      List.find?_isSome.2 ⟨field, member, BEq.rfl⟩
    obtain ⟨other, found⟩ := Option.isSome_iff_exists.1 some
    have otherMember := List.mem_of_find?_eq_some found
    have sameName : other.name = field.name := by simpa using List.find?_some found
    rw [found, List.inj_on_of_nodup_map distinct otherMember member sameName]

theorem keys_table {β : Type} (valueOf : Field α → β) :
    Entries.keys (recordType.table valueOf) = recordType.fields.map Field.name :=
  Entries.keys_tabulate _ _ _

theorem lookup_table {β : Type} (distinct : recordType.DistinctFields) (valueOf : Field α → β)
    {field : Field α} (member : field ∈ recordType.fields) :
    (recordType.table valueOf).lookup field.name = some (valueOf field) :=
  Entries.lookup_tabulate distinct valueOf member

theorem mem_table {β : Type} {valueOf : Field α → β} {entry : String × β} :
    entry ∈ recordType.table valueOf ↔
      ∃ field ∈ recordType.fields, (field.name, valueOf field) = entry :=
  Entries.mem_tabulate

/-- Giving a declared field a new value changes the table at that field only. -/
theorem insert_table {β : Type} (distinct : recordType.DistinctFields) (valueOf : Field α → β)
    {field : Field α} (member : field ∈ recordType.fields) (value : β) :
    Entries.insert (recordType.table valueOf) field.name value =
      recordType.table fun other => if other.name = field.name then value else valueOf other := by
  have present : field.name ∈ Entries.keys (recordType.table valueOf) := by
    rw [keys_table]
    exact List.mem_map_of_mem member
  apply Entries.eq_tabulate_of_keys distinct
  · rw [Entries.keys_insert, if_pos present, keys_table]
  · intro other otherMember
    rw [Entries.lookup_insert, lookup_table distinct valueOf otherMember]
    split <;> rfl

end RecordType

/-! ## Fields that can be left out -/

namespace Field

theorem fallback?_eq_some_iff (field : Field (Typed Payload)) (value : Typed Payload) :
    field.fallback? = some value ↔
      (∃ default, field.default? = some default ∧ default.typed = value) ∨
        (field.default? = none ∧ field.type.isOptional = true ∧ value = .missing) := by
  rw [fallback?]
  cases field.default? with
  | some default => simp
  | none => cases field.type.isOptional <;> simp [eq_comm]

theorem fallback?_eq_none_iff (field : Field (Typed Payload)) :
    field.fallback? = none ↔ field.default? = none ∧ field.type.isOptional = false := by
  rw [fallback?]
  cases field.default? with
  | some default => simp
  | none => cases field.type.isOptional <;> simp

/-- What holds of the declared default and of the missing value holds of what steps in for the
field. -/
theorem of_fallback? (holds : TypeExpr → Typed Payload → Prop) {field : Field (Typed Payload)}
    (missing : ∀ inner, holds (.optional inner) .missing)
    (defaults : ∀ default, field.default? = some default → holds field.type default.typed)
    {value : Typed Payload} (fallback : field.fallback? = some value) :
    holds field.type value := by
  rcases (field.fallback?_eq_some_iff value).1 fallback with
    ⟨default, declared, rfl⟩ | ⟨_, optional, rfl⟩
  · exact defaults default declared
  · obtain ⟨inner, isOptional⟩ := TypeExpr.exists_eq_optional optional
    rw [isOptional]
    exact missing inner

theorem validate_of_no_validator {field : Field (Typed Payload)}
    (unchecked : field.validator? = none) (value : Typed Payload) :
    field.validate value = .ok () := by
  rw [validate, unchecked]

theorem validator?_of_fallback? {field : Field (Typed Payload)}
    (attached : field.attachValidator = field) {value : Typed Payload}
    (fallback : field.fallback? = some value) :
    field.validator? = none := by
  rw [← attached, attachValidator]
  rcases (field.fallback?_eq_some_iff value).1 fallback with
    ⟨default, defaulted, _⟩ | ⟨_, optional, _⟩
  · simp [defaulted]
  · obtain ⟨inner, declared⟩ := TypeExpr.exists_eq_optional optional
    simp [declared, Validator.compile]

end Field

variable [BEq Payload]

/-! ## Supplied values -/

namespace Field

variable {path : Path}

/-- The field takes the value when it is given to it: its validator passes the value, and the
value conforms to its type. -/
def Accepts (field : Field (Typed Payload)) (value : Typed Payload) : Prop :=
  field.validate value = .ok () ∧ field.type.admits value = true

theorem checkSupplied_eq_ok_iff (field : Field (Typed Payload)) (typeCheck : TypeCheck)
    (value : Typed Payload) :
    field.checkSupplied path typeCheck value = .ok () ↔
      field.validate value = .ok () ∧
        (typeCheck = .checked → field.type.admits value = true) := by
  rw [checkSupplied]
  cases validated : field.validate value with
  | error failure => simp
  | ok _ =>
      by_cases refused : typeCheck = .checked ∧ field.type.admits value = false
      · simp [refused]
      · rw [if_neg refused]
        simpa using refused

/-- A supplied value is refused by the validator of the field, or else by its type. -/
theorem checkSupplied_eq_error_iff (field : Field (Typed Payload)) (typeCheck : TypeCheck)
    (value : Typed Payload) (error : StructureError) :
    field.checkSupplied path typeCheck value = .error error ↔
      (∃ failure, field.validate value = .error failure ∧
          error = ⟨path.child field.name, .invalid failure⟩) ∨
        (field.validate value = .ok () ∧ typeCheck = .checked ∧ field.type.admits value = false ∧
          error = ⟨path.child field.name, .typeMismatch field.type.text value.kind⟩) := by
  rw [checkSupplied]
  cases validated : field.validate value with
  | error failure => simp [eq_comm (a := error)]
  | ok _ =>
      by_cases refused : typeCheck = .checked ∧ field.type.admits value = false
      · rw [if_pos refused]
        simp [refused, eq_comm (a := error)]
      · rw [if_neg refused]
        simp only [reduceCtorEq, false_and, exists_false, false_or, true_and, false_iff]
        exact fun refusal => refused ⟨refusal.1, refusal.2.1⟩

/-- Nothing is left to check of a value that conforms to the type. -/
theorem checkSupplied_eq_of_admits {field : Field (Typed Payload)} {value : Typed Payload}
    (admitted : field.validate value = .ok () → field.type.admits value = true)
    (typeCheck : TypeCheck) :
    field.checkSupplied path typeCheck value = field.checkSupplied path .trusted value := by
  rw [checkSupplied, checkSupplied]
  cases validated : field.validate value with
  | error failure => rfl
  | ok _ => simp [admitted validated]

end Field

namespace RecordType

variable {recordType : RecordType (Typed Payload)} {path : Path}

theorem fieldValue_eq_ok_iff (typeCheck : TypeCheck) (supplied : Entries (Typed Payload))
    (field : Field (Typed Payload)) (value : Typed Payload) :
    recordType.fieldValue path typeCheck supplied field = .ok value ↔
      (supplied.lookup field.name = some value ∧
          field.checkSupplied path typeCheck value = .ok ()) ∨
        (supplied.lookup field.name = none ∧ field.fallback? = some value) := by
  rw [fieldValue]
  cases supplied.lookup field.name with
  | none => cases field.fallback? <;> simp
  | some given =>
      rw [Outcome.bind_eq_ok_iff]
      simp only [Except.ok.injEq, Option.some.injEq, reduceCtorEq, false_and, or_false]
      constructor
      · rintro ⟨_, checked, rfl⟩
        exact ⟨rfl, checked⟩
      · rintro ⟨rfl, checked⟩
        exact ⟨(), checked, rfl⟩

/-- A field has no value when it does not take the supplied one, or when nothing is supplied and
nothing steps in. -/
theorem fieldValue_eq_error_iff (typeCheck : TypeCheck) (supplied : Entries (Typed Payload))
    (field : Field (Typed Payload)) (error : StructureError) :
    recordType.fieldValue path typeCheck supplied field = .error error ↔
      (∃ value, supplied.lookup field.name = some value ∧
          field.checkSupplied path typeCheck value = .error error) ∨
        (supplied.lookup field.name = none ∧ field.fallback? = none ∧
          error = ⟨path, .missingField recordType.name field.name⟩) := by
  rw [fieldValue]
  cases supplied.lookup field.name with
  | none => cases field.fallback? <;> simp [eq_comm]
  | some given => simp [Outcome.bind_eq_error_iff]

/-- The first field without a value is reported; only where all fields have one, a supplied value
without a field is. -/
theorem assemble_eq_error_iff (typeCheck : TypeCheck) (supplied : Entries (Typed Payload))
    (error : StructureError) :
    recordType.assemble path typeCheck supplied = .error error ↔
      Outcome.FirstFailure
          (fun field => ∃ value, recordType.fieldValue path typeCheck supplied field = .ok value)
          (fun _ field => recordType.fieldValue path typeCheck supplied field = .error error)
          recordType.fields ∨
        (∀ field ∈ recordType.fields,
            ∃ value, recordType.fieldValue path typeCheck supplied field = .ok value) ∧
          ∃ entry, (supplied.find? fun entry => !recordType.declares entry.1) = some entry ∧
            error = ⟨path, recordType.unknownField entry.1⟩ := by
  have allComputed : (∃ values, Entries.sequence (recordType.fields.map fun field =>
        (field.name, recordType.fieldValue path typeCheck supplied field)) = .ok values) ↔
      ∀ field ∈ recordType.fields,
        ∃ value, recordType.fieldValue path typeCheck supplied field = .ok value := by
    rw [Outcome.exists_sequence_eq_ok_iff, List.forall_mem_map]
  rw [assemble, Outcome.bind_eq_error_iff, Outcome.sequence_eq_error_iff,
    Outcome.firstFailure_map_iff, ← allComputed]
  refine or_congr Iff.rfl ?_
  cases supplied.find? fun entry => !recordType.declares entry.1 with
  | none => simp
  | some entry => simp [eq_comm (a := error)]

omit [BEq Payload] in
theorem find?_undeclared_eq_none_iff {supplied : Entries (Typed Payload)} :
    (supplied.find? fun entry => !recordType.declares entry.1) = none ↔
      ∀ key ∈ Entries.keys supplied, recordType.declares key = true := by
  simp [List.find?_eq_none, Entries.keys]

/-- All fields have a value and nothing else is supplied. -/
theorem assemble_eq_ok_iff (distinct : recordType.DistinctFields) (typeCheck : TypeCheck)
    (supplied values : Entries (Typed Payload)) :
    recordType.assemble path typeCheck supplied = .ok values ↔
      ∃ valueOf : Field (Typed Payload) → Typed Payload,
        (∀ field ∈ recordType.fields,
          recordType.fieldValue path typeCheck supplied field = .ok (valueOf field)) ∧
        (∀ key ∈ Entries.keys supplied, recordType.declares key = true) ∧
        values = recordType.table valueOf := by
  have tableIff := Entries.sequence_tabulate_eq_ok_iff distinct
    (recordType.fieldValue path typeCheck supplied)
  rw [assemble, Outcome.bind_eq_ok_iff]
  constructor
  · rintro ⟨found, computed, checked⟩
    obtain ⟨valueOf, given, rfl⟩ := (tableIff found).1 computed
    refine ⟨valueOf, given, ?_⟩
    split at checked
    · contradiction
    · next declared =>
        exact ⟨find?_undeclared_eq_none_iff.1 declared, (Except.ok.inj checked).symm⟩
  · rintro ⟨valueOf, given, declared, rfl⟩
    refine ⟨_, (tableIff _).2 ⟨valueOf, given, rfl⟩, ?_⟩
    rw [find?_undeclared_eq_none_iff.2 declared]
    rfl

/-- Supplied values are assembled alike when they give the fields the same values and when no value
is without a field. -/
theorem assemble_congr {typeCheck otherCheck : TypeCheck}
    {supplied others : Entries (Typed Payload)}
    (same : ∀ field ∈ recordType.fields,
      recordType.fieldValue path typeCheck supplied field =
        recordType.fieldValue path otherCheck others field)
    (declared : ∀ key ∈ Entries.keys supplied, recordType.declares key = true)
    (othersDeclared : ∀ key ∈ Entries.keys others, recordType.declares key = true) :
    recordType.assemble path typeCheck supplied = recordType.assemble path otherCheck others := by
  have sameValues : (recordType.fields.map fun field =>
        (field.name, recordType.fieldValue path typeCheck supplied field)) =
      recordType.fields.map fun field =>
        (field.name, recordType.fieldValue path otherCheck others field) :=
    List.map_congr_left fun field member => congrArg (Prod.mk field.name) (same field member)
  rw [assemble, assemble, sameValues, find?_undeclared_eq_none_iff.2 declared,
    find?_undeclared_eq_none_iff.2 othersDeclared]

/-- A record made of typed values has no kept entries and no key order. -/
theorem construct_eq_ok_iff (distinct : recordType.DistinctFields)
    (supplied : Entries (Typed Payload)) (record : Record (Typed Payload)) :
    recordType.construct supplied = .ok record ↔
      ∃ valueOf : Field (Typed Payload) → Typed Payload,
        (∀ field ∈ recordType.fields,
          recordType.fieldValue .root .checked supplied field = .ok (valueOf field)) ∧
        (∀ key ∈ Entries.keys supplied, recordType.declares key = true) ∧
        record =
          ⟨recordType, recordType.table valueOf,
            if recordType.isOpen then some [] else none, []⟩ := by
  rw [construct, Outcome.bind_eq_ok_iff]
  constructor
  · rintro ⟨values, assembled, made⟩
    obtain ⟨valueOf, given, declared, rfl⟩ :=
      (assemble_eq_ok_iff distinct .checked supplied values).1 assembled
    exact ⟨valueOf, given, declared, (Except.ok.inj made).symm⟩
  · rintro ⟨valueOf, given, declared, rfl⟩
    exact ⟨_, (assemble_eq_ok_iff distinct .checked supplied _).2
      ⟨valueOf, given, declared, rfl⟩, rfl⟩

end RecordType

/-! ## Changes -/

namespace Record

/-- A field is changed if it is declared, has a value, and takes the new one. -/
theorem set_eq_ok_iff (record : Record (Typed Payload)) (name : String)
    (value old : Typed Payload) (changed : Record (Typed Payload)) :
    record.set name value = .ok (old, changed) ↔
      ∃ field, record.recordType.field? name = some field ∧ record.get? name = some old ∧
        field.Accepts value ∧
        changed = { record with values := Entries.insert record.values name value } := by
  rw [set]
  cases declared : record.recordType.field? name with
  | none => simp
  | some field =>
      cases held : record.get? name with
      | none => simp
      | some previous =>
          rw [Outcome.bind_eq_ok_iff]
          simp only [Except.ok.injEq, Prod.mk.injEq, Option.some.injEq]
          constructor
          · rintro ⟨_, checked, rfl, rfl⟩
            obtain ⟨validated, admitted⟩ := (field.checkSupplied_eq_ok_iff _ value).1 checked
            exact ⟨field, rfl, rfl, ⟨validated, admitted rfl⟩, rfl⟩
          · rintro ⟨_, rfl, rfl, ⟨validated, admitted⟩, rfl⟩
            exact ⟨(), (field.checkSupplied_eq_ok_iff _ value).2 ⟨validated, fun _ => admitted⟩,
              rfl, rfl⟩

end Record

end Recast
