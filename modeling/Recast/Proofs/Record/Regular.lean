import Recast.Proofs.Record.Assembly
import Recast.Proofs.Typed.Admission
import Recast.Proofs.Typed.Equality

/-!
# Regular records and values

A record is regular when each declared field, in order, has a value that the field accepts, and
when it keeps entries exactly if its type is open.  A value is regular when all records in it are,
no mapping or untyped map in it has a key twice, and no set in it has equal items.  Assembling a
record yields a regular one, and changing a field or the kept entries leaves a regular record
regular.
-/

namespace Recast

variable {Payload : Type} [BEq Payload]

/-- Every field has a value that it accepts, and entries are kept exactly by open types. -/
structure Record.Regular (record : Record (Typed Payload)) : Prop where
  wellDeclared : record.recordType.WellDeclared
  filled : ∃ valueOf : Field (Typed Payload) → Typed Payload,
    record.values = record.recordType.table valueOf ∧
      ∀ field ∈ record.recordType.fields, field.Accepts (valueOf field)
  extrasIfOpen : record.extras?.isSome = record.recordType.isOpen
  extrasWellFormed : (Value.map record.extras).WellFormed
  layoutDistinct : record.layout.Nodup
  layoutIfOpen : record.recordType.isOpen = false → record.layout = []

namespace Typed

/-- What regularity asks of a value apart from its parts. -/
def RegularHere : Typed Payload → Prop
  | .set items => allDistinct items = true
  | .mapping entries => (Entries.keys entries).Nodup
  | .record held => held.Regular
  | .raw value => value.WellFormed
  | _ => True

/-- Everything in the value is regular. -/
def Regular (value : Typed Payload) : Prop :=
  Everywhere parts RegularHere value

theorem Regular.wellFormed {value : Typed Payload} (regular : value.Regular) :
    value.WellFormed := by
  refine regular.mono ?_
  intro part regularPart
  cases part with
  | mapping entries => exact regularPart
  | raw value => exact regularPart
  | record held =>
      obtain ⟨valueOf, tabulated, _⟩ := regularPart.filled
      refine ⟨?_, regularPart.extrasWellFormed⟩
      rw [tabulated, RecordType.keys_table]
      exact regularPart.wellDeclared.distinct
  | _ => trivial

omit [BEq Payload] in
theorem mem_parts_table {recordType : RecordType (Typed Payload)}
    (valueOf : Field (Typed Payload) → Typed Payload) (extras? : Option (Entries Value))
    (layout : List String) {field : Field (Typed Payload)} (member : field ∈ recordType.fields) :
    valueOf field ∈
      (Typed.record ⟨recordType, recordType.table valueOf, extras?, layout⟩).parts :=
  List.mem_map.2 ⟨(field.name, valueOf field), RecordType.mem_table.2 ⟨field, member, rfl⟩, rfl⟩

/-- A value that conforms to a type is regular if the records in it are. -/
theorem regular_of_admits {type : TypeExpr} {value : Typed Payload}
    (admitted : type.admits value = true) (wellFormed : value.WellFormed)
    (nested : ∀ held, Occurs parts (.record held) value → (Typed.record held).Regular) :
    value.Regular := by
  induction type generalizing value with
  | scalar kind =>
      cases kind <;> cases value <;>
        first
          | contradiction
          | exact (everywhere_of_parts_eq_nil rfl).2 trivial
  | any =>
      obtain ⟨raw, rfl⟩ := (TypeExpr.admits_any_iff value).1 admitted
      exact (everywhere_of_parts_eq_nil rfl).2 wellFormed.here
  | optional inner inductionHypothesis =>
      rcases (TypeExpr.admits_optional_iff inner value).1 admitted with rfl | innerAdmitted
      · exact (everywhere_of_parts_eq_nil rfl).2 trivial
      · exact inductionHypothesis innerAdmitted wellFormed nested
  | sequence item inductionHypothesis =>
      obtain ⟨items, rfl, each⟩ := (TypeExpr.admits_sequence_iff item value).1 admitted
      refine (everywhere_sequence_iff items).2 ⟨trivial, ?_⟩
      intro part member
      exact inductionHypothesis (each part member) (wellFormed.inside member)
        fun held occurs => nested held (.inside member occurs)
  | set item inductionHypothesis =>
      obtain ⟨items, rfl, each, distinct⟩ := (TypeExpr.admits_set_iff item value).1 admitted
      refine (everywhere_set_iff items).2 ⟨distinct, ?_⟩
      intro part member
      exact inductionHypothesis (each part member) (wellFormed.inside member)
        fun held occurs => nested held (.inside member occurs)
  | mapping key type _ inductionHypothesis =>
      obtain ⟨entries, rfl, each⟩ := (TypeExpr.admits_mapping_iff key type value).1 admitted
      refine (everywhere_mapping_iff entries).2 ⟨wellFormed.here, ?_⟩
      intro entry member
      have partMember := mem_parts_mapping member
      exact inductionHypothesis (each entry member) (wellFormed.inside partMember)
        fun held occurs => nested held (.inside partMember occurs)
  | record name =>
      obtain ⟨held, rfl, _⟩ := (TypeExpr.admits_record_iff name value).1 admitted
      exact nested held .self
  | custom name =>
      obtain ⟨payload, rfl⟩ := (TypeExpr.admits_custom_iff name value).1 admitted
      exact (everywhere_of_parts_eq_nil rfl).2 trivial

end Typed

/-! ## Records as they are made -/

/-- What steps in for a field that is not supplied is accepted like a supplied value. -/
theorem Field.accepts_and_regular_of_fallback {field : Field (Typed Payload)}
    (attached : field.attachValidator = field)
    (defaults : ∀ default, field.default? = some default →
      field.type.admits default.typed = true ∧ default.typed.Regular)
    {value : Typed Payload} (fallback : field.fallback? = some value) :
    field.Accepts value ∧ value.Regular := by
  have unchecked : field.validator? = none := validator?_of_fallback? attached fallback
  have missing : ∀ inner : TypeExpr,
      (TypeExpr.optional inner).admits (.missing : Typed Payload) = true ∧
        (.missing : Typed Payload).Regular := fun inner =>
    ⟨(TypeExpr.admits_optional_iff inner .missing).2 (.inl rfl),
      (Typed.everywhere_of_parts_eq_nil rfl).2 trivial⟩
  obtain ⟨admitted, regular⟩ :=
    of_fallback? (fun type value => type.admits value = true ∧ value.Regular) missing defaults
      fallback
  exact ⟨⟨validate_of_no_validator unchecked value, admitted⟩, regular⟩

namespace RecordType

variable {recordType : RecordType (Typed Payload)}

/-- A record of accepted and regular values is regular if what it keeps is in order. -/
theorem regular_of_table (wellDeclared : recordType.WellDeclared)
    {valueOf : Field (Typed Payload) → Typed Payload}
    (each : ∀ field ∈ recordType.fields,
      field.Accepts (valueOf field) ∧ (valueOf field).Regular)
    {extras? : Option (Entries Value)} {layout : List String}
    (extrasIfOpen : extras?.isSome = recordType.isOpen)
    (extrasWellFormed : (Value.map (extras?.getD [])).WellFormed)
    (layoutDistinct : layout.Nodup) (layoutIfOpen : recordType.isOpen = false → layout = []) :
    (Typed.record ⟨recordType, recordType.table valueOf, extras?, layout⟩).Regular := by
  refine (Typed.everywhere_record_iff _).2 ⟨⟨wellDeclared, ?_, extrasIfOpen, extrasWellFormed,
    layoutDistinct, layoutIfOpen⟩, ?_⟩
  · exact ⟨valueOf, rfl, fun field member => (each field member).1⟩
  · intro entry member
    obtain ⟨field, fieldMember, rfl⟩ := mem_table.1 member
    exact (each field fieldMember).2

theorem regular_of_construct (wellDeclared : recordType.WellDeclared)
    (defaults : ∀ field ∈ recordType.fields, ∀ default, field.default? = some default →
      field.type.admits default.typed = true ∧ default.typed.Regular)
    {supplied : Entries (Typed Payload)}
    (suppliedRegular : ∀ (field : Field (Typed Payload)) value,
      supplied.lookup field.name = some value → field.Accepts value → value.Regular)
    {record : Record (Typed Payload)} (constructed : recordType.construct supplied = .ok record) :
    (Typed.record record).Regular := by
  obtain ⟨valueOf, given, _, rfl⟩ :=
    (construct_eq_ok_iff wellDeclared.distinct supplied record).1 constructed
  apply regular_of_table wellDeclared
  · intro field member
    rcases (fieldValue_eq_ok_iff _ _ field _).1 (given field member) with
      ⟨found, checked⟩ | ⟨_, fallback⟩
    · obtain ⟨validated, admitted⟩ := (field.checkSupplied_eq_ok_iff _ _).1 checked
      have accepted : field.Accepts (valueOf field) := ⟨validated, admitted rfl⟩
      exact ⟨accepted, suppliedRegular field _ found accepted⟩
    · exact Field.accepts_and_regular_of_fallback (wellDeclared.attached field member)
        (defaults field member) fallback
  · cases recordType.isOpen <;> rfl
  · cases recordType.isOpen <;> exact (Value.wellFormed_map_iff []).2 ⟨List.nodup_nil, by simp⟩
  · exact List.nodup_nil
  · exact fun _ => rfl

end RecordType

/-! ## Records as they are changed -/

namespace Value

theorem wellFormed_insert {entries : Entries Value} {value : Value}
    (wellFormed : (Value.map entries).WellFormed) (key : String)
    (valueWellFormed : value.WellFormed) :
    (Value.map (Entries.insert entries key value)).WellFormed := by
  rw [wellFormed_map_iff] at wellFormed ⊢
  refine ⟨Entries.nodup_keys_insert wellFormed.1 key value, ?_⟩
  intro entry member
  rcases Entries.mem_of_mem_insert member with rfl | earlier
  · exact valueWellFormed
  · exact wellFormed.2 entry earlier

theorem wellFormed_extend {entries : Entries Value} {pairs : List (String × Value)}
    (wellFormed : (Value.map entries).WellFormed)
    (pairsWellFormed : ∀ pair ∈ pairs, pair.2.WellFormed) :
    (Value.map (Entries.extend entries pairs)).WellFormed := by
  induction pairs generalizing entries with
  | nil => exact wellFormed
  | cons pair rest inductionHypothesis =>
      rw [List.forall_mem_cons] at pairsWellFormed
      exact inductionHypothesis (wellFormed_insert wellFormed pair.1 pairsWellFormed.1)
        pairsWellFormed.2

theorem wellFormed_erase {entries : Entries Value}
    (wellFormed : (Value.map entries).WellFormed) (key : String) :
    (Value.map (Entries.erase entries key)).WellFormed := by
  rw [wellFormed_map_iff] at wellFormed ⊢
  exact ⟨Entries.nodup_keys_erase wellFormed.1 key,
    fun entry member => wellFormed.2 entry (Entries.mem_of_mem_erase member)⟩

end Value

namespace Record

variable {record : Record (Typed Payload)}

/-- A changed field has a value that it accepts, and everything else is as it was. -/
theorem regular_of_set (regular : (Typed.record record).Regular) {name : String}
    {value old : Typed Payload} {changed : Record (Typed Payload)}
    (isSet : record.set name value = .ok (old, changed))
    (valueRegular : ∀ field : Field (Typed Payload), field.Accepts value → value.Regular) :
    (Typed.record changed).Regular := by
  obtain ⟨field, found, _, accepted, rfl⟩ := (set_eq_ok_iff record name value old changed).1 isSet
  obtain ⟨here, parts⟩ := (Typed.everywhere_record_iff record).1 regular
  have distinct := here.wellDeclared.distinct
  obtain ⟨member, rfl⟩ := (RecordType.field?_eq_some_iff distinct name field).1 found
  obtain ⟨valueOf, tabulated, each⟩ := here.filled
  refine (Typed.everywhere_record_iff _).2 ⟨⟨here.wellDeclared, ?_, here.extrasIfOpen,
    here.extrasWellFormed, here.layoutDistinct, here.layoutIfOpen⟩, ?_⟩
  · refine ⟨fun other => if other.name = field.name then value else valueOf other, ?_, ?_⟩
    · rw [tabulated, RecordType.insert_table distinct valueOf member]
    · intro other otherMember
      dsimp only
      split
      · next sameName =>
          rw [List.inj_on_of_nodup_map distinct otherMember member sameName]
          exact accepted
      · exact each other otherMember
  · intro entry entryMember
    rcases Entries.mem_of_mem_insert entryMember with rfl | earlier
    · exact valueRegular field accepted
    · exact parts entry earlier

/-- Kept entries can be changed to any that have no key twice. -/
theorem regular_editExtras (regular : (Typed.record record).Regular)
    {edit : Entries Value → Entries Value}
    (keeps : ∀ extras, (Value.map extras).WellFormed → (Value.map (edit extras)).WellFormed) :
    (Typed.record (record.editExtras edit)).Regular := by
  obtain ⟨here, parts⟩ := (Typed.everywhere_record_iff record).1 regular
  refine (Typed.everywhere_record_iff _).2 ⟨⟨here.wellDeclared, here.filled, ?_, ?_,
    here.layoutDistinct, here.layoutIfOpen⟩, parts⟩
  · change (record.extras?.map edit).isSome = record.recordType.isOpen
    rw [Option.isSome_map, here.extrasIfOpen]
  · have extrasWellFormed := here.extrasWellFormed
    rw [extras] at extrasWellFormed ⊢
    rw [editExtras]
    cases kept : record.extras? with
    | none =>
        rw [kept] at extrasWellFormed
        exact extrasWellFormed
    | some entries =>
        rw [kept] at extrasWellFormed
        exact keeps entries extrasWellFormed

end Record

end Recast
