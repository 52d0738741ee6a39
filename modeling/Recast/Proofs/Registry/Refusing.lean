import Recast.Proofs.Registry.Hosting
import Recast.Proofs.Registry.Persistence
import Recast.Proofs.Registry.Writing
import Recast.Proofs.Typed.Customs

/-!
# Why a value has no untyped form

Only custom values can be refused: those that name no hook, and those that hold what the hook does
not deal with.  The error of a value is that of the first custom value that is refused, in the order
in which the parts of the value are visited.  Kept entries and raw values are never looked at.  A
value that was structured through the registry of a host holds only what its hooks made, defaults
included, and each hook accepts what it made.
-/

namespace Recast

variable {Payload : Type}

/-! ## Fields in order -/

/-- The record holds one value for each field of its type, in the order of the fields. -/
def Record.FieldsInOrder (record : Record (Typed Payload)) : Prop :=
  (Entries.keys record.values).Nodup ∧
    Entries.keys record.values = record.recordType.fields.map Field.name

def Typed.FieldsInOrderHere : Typed Payload → Prop
  | .record held => held.FieldsInOrder
  | _ => True

/-- Every record in the value holds one value for each field of its type. -/
def Typed.FieldsInOrder (value : Typed Payload) : Prop :=
  Everywhere parts FieldsInOrderHere value

variable [BEq Payload]

theorem Typed.Regular.fieldsInOrder {value : Typed Payload} (regular : value.Regular) :
    value.FieldsInOrder := by
  refine regular.mono fun part regularPart => ?_
  cases part with
  | record held =>
      obtain ⟨valueOf, tabulated, _⟩ := regularPart.filled
      have keys : Entries.keys held.values = held.recordType.fields.map Field.name := by
        rw [tabulated, RecordType.keys_table]
      exact ⟨keys ▸ regularPart.wellDeclared.distinct, keys⟩
  | _ => trivial

/-- Fields fail in their order, those that are left out not at all.  What was written before does
not matter. -/
theorem Record.error?_writeFields (values : Entries (Typed Payload)) (defaults : DefaultFields)
    (outputs : Entries (Except UnstructureError Value)) (fields : List (Field (Typed Payload)))
    (written : Entries Value) :
    Outcome.error? (writeFields values defaults outputs fields written) =
      fields.findSome? fun field =>
        if field.strips defaults ((values.lookup field.name).getD .missing) then none
        else Outcome.error? ((outputs.lookup field.name).getD (.ok .null)) := by
  induction fields generalizing written with
  | nil => rfl
  | cons field rest inductionHypothesis =>
      rw [Outcome.findSome?_cons_eq_or]
      simp only [writeFields, ← Field.strips_iff]
      split
      · rw [inductionHypothesis, Option.none_or]
      · exact Outcome.error?_bind fun output => inductionHypothesis _

namespace Registry

variable {alphabet : Text.Alphabet} {registry : Registry Payload}

/-! ## Refused custom values -/

/-- There is a hook for the custom value, and it deals with what the value holds. -/
def AcceptsCustom (registry : Registry Payload) (custom : String × Payload) : Prop :=
  ∃ hook, registry.hook? custom.1 = some hook ∧ (hook.unstructurePayload? custom.2).isSome = true

/-- Why a custom value is not accepted.  Either error names the type of the value. -/
inductive RefusesCustom (registry : Registry Payload) (custom : String × Payload) :
    UnstructureError → Prop
  | unregistered :
      registry.hook? custom.1 = none → RefusesCustom registry custom (.unregistered custom.1)
  | foreign {hook : Hook Payload} :
      registry.hook? custom.1 = some hook → hook.unstructurePayload? custom.2 = none →
      RefusesCustom registry custom (.hook custom.1 s!"payload is not a {hook.payloadType}")

/-- The error for a custom value, if it is refused. -/
def refusal? (registry : Registry Payload) (custom : String × Payload) :
    Option UnstructureError :=
  Outcome.error? (registry.unstructureCustom custom.1 custom.2)

omit [BEq Payload] in
theorem refusal?_eq_some_iff (custom : String × Payload) (error : UnstructureError) :
    registry.refusal? custom = some error ↔ registry.RefusesCustom custom error := by
  rw [refusal?, Outcome.error?_eq_some_iff, unstructureCustom]
  cases registered : registry.hook? custom.1 with
  | none =>
      constructor
      · rintro ⟨⟩
        exact .unregistered registered
      · rintro (_ | ⟨found, _⟩)
        · rfl
        · simp [registered] at found
  | some hook =>
      dsimp only
      cases written : hook.unstructurePayload? custom.2 with
      | none =>
          constructor
          · rintro ⟨⟩
            exact .foreign registered written
          · rintro (absent | ⟨found, _⟩)
            · simp [registered] at absent
            · rw [registered] at found
              cases found
              rfl
      | some raw =>
          refine iff_of_false (by simp) ?_
          rintro (absent | ⟨found, foreign⟩)
          · simp [registered] at absent
          · rw [registered] at found
            cases found
            rw [written] at foreign
            contradiction

omit [BEq Payload] in
theorem refusal?_eq_none_iff (custom : String × Payload) :
    registry.refusal? custom = none ↔ registry.AcceptsCustom custom := by
  rw [refusal?, Outcome.error?_eq_none_iff, unstructureCustom, AcceptsCustom]
  cases registry.hook? custom.1 with
  | none => simp
  | some hook => cases written : hook.unstructurePayload? custom.2 <;> simp [written]

/-! ## The first error in writing -/

theorem error?_unstructureItems (defaults : DefaultFields) (items : List (Typed Payload)) :
    Outcome.error? (registry.unstructureItems defaults items) =
      items.findSome? fun item => Outcome.error? (registry.unstructure defaults item) := by
  induction items with
  | nil => rfl
  | cons item rest inductionHypothesis =>
      rw [unstructureItems, Outcome.findSome?_cons_eq_or, ← inductionHypothesis]
      exact Outcome.error?_bind fun value => Outcome.error?_bind_ok _ _

/-- The untyped form of an array or map fails where an item of it does. -/
theorem error?_unstructure_sequence (defaults : DefaultFields) (items : List (Typed Payload)) :
    Outcome.error? (registry.unstructure defaults (.sequence items)) =
      items.findSome? fun item => Outcome.error? (registry.unstructure defaults item) := by
  rw [unstructure, Outcome.error?_bind_ok, error?_unstructureItems]

theorem error?_unstructure_set (defaults : DefaultFields) (items : List (Typed Payload)) :
    Outcome.error? (registry.unstructure defaults (.set items)) =
      items.findSome? fun item => Outcome.error? (registry.unstructure defaults item) := by
  rw [unstructure, Outcome.error?_bind_ok, error?_unstructureItems]

theorem error?_unstructure_mapping (defaults : DefaultFields)
    (entries : Entries (Typed Payload)) :
    Outcome.error? (registry.unstructure defaults (.mapping entries)) =
      entries.findSome? fun entry => Outcome.error? (registry.unstructure defaults entry.2) := by
  rw [unstructure, Outcome.error?_bind_ok, Outcome.error?_sequence,
    unstructureEntries_eq_mapValues, Entries.mapValues, List.findSome?_map]
  rfl

/-- The error of a record is the first in the order of its fields, where a field that is left out
has none.  What the record keeps besides has no part in it. -/
theorem error?_unstructure_record (defaults : DefaultFields) (record : Record (Typed Payload)) :
    Outcome.error? (registry.unstructure defaults (.record record)) =
      record.recordType.fields.findSome? fun field =>
        if field.strips defaults ((record.get? field.name).getD .missing) then none
        else (record.get? field.name).bind fun value =>
          Outcome.error? (registry.unstructure defaults value) := by
  obtain ⟨recordType, values, extras?, layout⟩ := record
  rw [unstructure, Outcome.error?_bind_ok, Record.error?_writeFields]
  refine Outcome.findSome?_congr fun field _ => ?_
  rw [unstructureEntries_eq_mapValues, Entries.lookup_mapValues, Record.get?]
  split
  · rfl
  · cases values.lookup field.name <;> rfl

/-- Where the fields are in order, the error of a record is the first among its values. -/
theorem error?_unstructure_record_written {record : Record (Typed Payload)}
    (inOrder : record.FieldsInOrder) :
    Outcome.error? (registry.unstructure .written (.record record)) =
      record.values.findSome? fun entry =>
        Outcome.error? (registry.unstructure .written entry.2) := by
  obtain ⟨distinct, keys⟩ := inOrder
  let errorAt (key : String) : Option UnstructureError :=
    (record.values.lookup key).bind fun value =>
      Outcome.error? (registry.unstructure .written value)
  calc
    Outcome.error? (registry.unstructure .written (.record record)) =
        record.recordType.fields.findSome? fun field => errorAt field.name :=
      error?_unstructure_record .written record
    _ = (record.recordType.fields.map Field.name).findSome? errorAt := by
      rw [List.findSome?_map]
      rfl
    _ = record.values.findSome? fun entry => errorAt entry.1 := by
      rw [← keys, Entries.keys, List.findSome?_map]
      rfl
    _ = record.values.findSome? fun entry =>
        Outcome.error? (registry.unstructure .written entry.2) := by
      refine Outcome.findSome?_congr fun entry member => ?_
      show (record.values.lookup entry.1).bind _ = _
      rw [Entries.lookup_of_mem distinct member, Option.bind_some]

/-- The error of a value is that of the first custom value in it that is refused. -/
theorem error?_unstructure_written {value : Typed Payload} (inOrder : value.FieldsInOrder) :
    Outcome.error? (registry.unstructure .written value) =
      value.customs.findSome? registry.refusal? := by
  induction value using Typed.partsInduction with
  | step value inductionHypothesis =>
      have inParts : (value.parts.flatMap Typed.customs).findSome? registry.refusal? =
          value.parts.findSome? fun part =>
            Outcome.error? (registry.unstructure .written part) := by
        rw [Outcome.findSome?_flatMap]
        exact Outcome.findSome?_congr fun part member =>
          (inductionHypothesis part member (inOrder.inside member)).symm
      rw [Typed.customs_eq, List.findSome?_append, inParts]
      cases value with
      | sequence items => exact error?_unstructure_sequence .written items
      | set items => exact error?_unstructure_set .written items
      | mapping entries =>
          rw [error?_unstructure_mapping, Typed.parts, List.findSome?_map]
          rfl
      | record held =>
          rw [error?_unstructure_record_written inOrder.here, Typed.parts, List.findSome?_map]
          rfl
      | custom typeName payload =>
          show registry.refusal? (typeName, payload) =
            ([(typeName, payload)].findSome? registry.refusal?).or none
          rw [Outcome.findSome?_cons_eq_or, List.findSome?_nil, Option.or_none, Option.or_none]
      | _ => rfl

/-- A value in which all custom values are accepted has an untyped form, with defaults written or
stripped, whatever its records hold. -/
theorem exists_unstructure_of_accepts {value : Typed Payload}
    (accepted : ∀ custom ∈ value.customs, registry.AcceptsCustom custom)
    (defaults : DefaultFields) :
    ∃ raw, registry.unstructure defaults value = .ok raw := by
  rw [← Outcome.error?_eq_none_iff]
  induction value using Typed.partsInduction with
  | step value inductionHypothesis =>
      have partWritten : ∀ part ∈ value.parts,
          Outcome.error? (registry.unstructure defaults part) = none := by
        intro part member
        refine inductionHypothesis part member fun custom customMember => accepted custom ?_
        rw [Typed.customs_eq, List.mem_append, List.mem_flatMap]
        exact .inr ⟨part, member, customMember⟩
      cases value with
      | sequence items =>
          rw [error?_unstructure_sequence, List.findSome?_eq_none_iff]
          exact partWritten
      | set items =>
          rw [error?_unstructure_set, List.findSome?_eq_none_iff]
          exact partWritten
      | mapping entries =>
          rw [error?_unstructure_mapping, List.findSome?_eq_none_iff]
          exact fun entry member => partWritten entry.2 (Typed.mem_parts_mapping member)
      | record held =>
          rw [error?_unstructure_record, List.findSome?_eq_none_iff]
          intro field _
          split
          · rfl
          · cases found : held.get? field.name with
            | none => rfl
            | some value =>
                exact partWritten value (Typed.mem_parts_record (Entries.mem_of_lookup found))
      | custom typeName payload =>
          exact (refusal?_eq_none_iff (typeName, payload)).2
            (accepted _ (List.mem_singleton.2 rfl))
      | _ => rfl

/-! ## Structured values -/

/-- What a hook of a built registry has made it accepts. -/
theorem Structures.accepts (built : registry.Built alphabet) {type : TypeExpr} {raw : Value}
    {value : Typed Payload} (structures : registry.Structures type raw value) :
    ∀ custom ∈ value.customs, registry.AcceptsCustom custom := by
  rintro ⟨typeName, payload⟩ member
  obtain ⟨hook, made, registered, structured⟩ :=
    structures.made _ ((Typed.mem_customs_iff value).1 member)
  exact ⟨hook, registered, (built.wellTyped registered).ownKind made payload structured⟩

end Registry

/-- A value has an untyped form exactly if every custom value in it is accepted; else the error is
that of the first one that is not.  What records keep does not matter, and every value that was
structured through the registry of a host has an untyped form. -/
theorem Registry.unstructure_fails_only_at_customs {Host : Type} [DecidableEq Host]
    {Carrier : Host → Type} [∀ host, BEq (Carrier host)] :
    (∀ (registry : Registry Payload) (value : Typed Payload), value.FieldsInOrder →
      ((∃ raw, registry.unstructure .written value = .ok raw) ↔
        ∀ typeName payload, Occurs Typed.parts (.custom typeName payload) value →
          registry.AcceptsCustom (typeName, payload)) ∧
      ∀ error, registry.unstructure .written value = .error error ↔
        ∃ before custom after, value.customs = before ++ custom :: after ∧
          registry.RefusesCustom custom error ∧
          ∀ earlier ∈ before, registry.AcceptsCustom earlier) ∧
    (∀ (registry : Registry Payload) (record : Record (Typed Payload)) extras? layout defaults
      error,
      registry.unstructureRecord defaults { record with extras? := extras?, layout := layout } =
          .error error ↔
        registry.unstructureRecord defaults record = .error error) ∧
    (∀ (registry : Registry Payload) (raw : Value) defaults,
      registry.unstructure defaults (.raw raw) = .ok raw) ∧
    ∀ (alphabet : Text.Alphabet) (registry : Registry (Hosted Carrier)),
      registry.HostBuilt alphabet → ∀ type raw value,
        registry.structureAs raw type = .ok value →
          ∀ defaults, ∃ written, registry.unstructure defaults value = .ok written := by
  refine ⟨?_, ?_, ?_, ?_⟩
  · intro registry value inOrder
    refine ⟨?_, fun error => ?_⟩
    · rw [← Outcome.error?_eq_none_iff, error?_unstructure_written inOrder,
        List.findSome?_eq_none_iff]
      constructor
      · intro noRefusal typeName payload occurs
        rw [← refusal?_eq_none_iff]
        exact noRefusal _ ((Typed.mem_customs_iff value).2 occurs)
      · rintro accepted ⟨typeName, payload⟩ member
        rw [refusal?_eq_none_iff]
        exact accepted typeName payload ((Typed.mem_customs_iff value).1 member)
    · rw [← Outcome.error?_eq_some_iff, error?_unstructure_written inOrder,
        List.findSome?_eq_some_iff]
      simp only [refusal?_eq_some_iff, refusal?_eq_none_iff]
  · intro registry record extras? layout defaults error
    rw [← Outcome.error?_eq_some_iff, ← Outcome.error?_eq_some_iff, unstructureRecord,
      unstructureRecord, error?_unstructure_record, error?_unstructure_record]
    rfl
  · intro registry raw defaults
    rfl
  · intro alphabet registry hostBuilt type raw value structured
    have built := hostBuilt.built
    exact exists_unstructure_of_accepts ((structures_of_ok built.coherent structured).accepts built)

namespace Sample

/-- A parcel with the label that parcels have by default. -/
def parcel : Record (Typed (Hosted Paper)) where
  recordType := parcelType
  values := [("label", .custom "Label" ⟨true, "plain"⟩)]
  extras? := none
  layout := []

/-- A parcel, a seal in the place of a label, and a custom value of a type without a hook. -/
def strangers : Typed (Hosted Paper) :=
  .sequence [.record parcel, .custom "Label" ⟨false, "S-1"⟩, .custom "Chip" ⟨true, "C-1"⟩]

/-- A parcel that was read is written, so its label is accepted; of the custom values behind it the
first is the one that is reported: it is of another host type than its hook. -/
theorem unstructure_fails_only_at_strangers :
    (∀ defaults, ∃ written, parcels.unstructure defaults (.record parcel) = .ok written) ∧
      parcels.AcceptsCustom ("Label", ⟨true, "plain"⟩) ∧
      parcels.unstructure .written strangers =
        .error (.hook "Label" "payload is not a Label") := by
  have structured : parcels.structureAs (.map []) (.record "Parcel") = .ok (.record parcel) := rfl
  have coherent := hostBuilt_parcels.built.coherent
  have parcelInOrder : (Typed.record parcel).FieldsInOrder := by
    refine ((Registry.structures_of_ok coherent structured).regular coherent ?_).fieldsInOrder
    exact (Value.wellFormed_map_iff []).2 ⟨List.nodup_nil, by simp⟩
  have inOrder : strangers.FieldsInOrder := by
    refine (Typed.everywhere_sequence_iff _).2 ⟨trivial, ?_⟩
    simp only [List.forall_mem_cons, List.not_mem_nil, false_implies, implies_true, and_true]
    exact ⟨parcelInOrder, (Typed.everywhere_of_parts_eq_nil rfl).2 trivial,
      (Typed.everywhere_of_parts_eq_nil rfl).2 trivial⟩
  obtain ⟨fails, _, _, afterReading⟩ :=
    @Registry.unstructure_fails_only_at_customs (Hosted Paper) _ Bool _ Paper _
  have written := afterReading Text.unicode parcels hostBuilt_parcels _ _ _ structured
  have labelHeld : ("label", Typed.custom "Label" ⟨true, "plain"⟩) ∈ parcel.values := by
    simp [parcel]
  have labelAccepted : parcels.AcceptsCustom ("Label", ⟨true, "plain"⟩) :=
    (fails parcels _ parcelInOrder).1.1 (written .written) "Label" ⟨true, "plain"⟩
      (.inside (Typed.mem_parts_record labelHeld) .self)
  have found : parcels.hook? "Label" = some labelHook.hook := rfl
  have foreign : labelHook.hook.unstructurePayload? ⟨false, "S-1"⟩ = none := rfl
  have sealRefused : parcels.RefusesCustom ("Label", ⟨false, "S-1"⟩)
      (.hook "Label" "payload is not a Label") := by
    have message :
        "payload is not a Label" = s!"payload is not a {labelHook.hook.payloadType}" := by
      decide
    rw [message]
    exact .foreign found foreign
  refine ⟨written, labelAccepted, ((fails parcels strangers inOrder).2 _).2
    ⟨[("Label", ⟨true, "plain"⟩)], ("Label", ⟨false, "S-1"⟩), [("Chip", ⟨true, "C-1"⟩)], rfl,
      sealRefused, List.forall_mem_singleton.2 labelAccepted⟩⟩

end Sample

end Recast
