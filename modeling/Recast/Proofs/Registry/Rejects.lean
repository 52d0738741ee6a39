import Recast.Proofs.Registry.Failing
import Recast.Proofs.Registry.Structures

/-!
# Why a value is rejected

The relation `Rejects` lists the errors that structuring can end in: a fault of the value itself,
or an error of a part, seen from the value.  It leaves out which of several errors is reported, so
an induction over its derivations covers whatever holds of all errors.
-/

namespace Recast

variable {Payload : Type} [BEq Payload]

namespace Registry

/-- `Rejects registry type raw error`: the error is a reason why the value is not of the type. -/
inductive Rejects (registry : Registry Payload) : TypeExpr → Value → StructureError → Prop
  | mismatch (type : TypeExpr) (raw : Value) :
      Rejects registry type raw (.atTop (type.mismatch raw))
  | optional {inner : TypeExpr} {raw : Value} {error : StructureError} :
      Rejects registry inner raw error →
      Rejects registry (.optional inner) raw error
  | sequence {item : TypeExpr} {items : List Value} {position : Nat} {part : Value}
      {error : StructureError} :
      items[position]? = some part →
      Rejects registry item part error →
      Rejects registry (.sequence item) (.array items) (error.under (toString position))
  | set {item : TypeExpr} {items : List Value} {position : Nat} {part : Value}
      {error : StructureError} :
      items[position]? = some part →
      Rejects registry item part error →
      Rejects registry (.set item) (.array items) (error.under (toString position))
  | mapping {type : TypeExpr} {entries : Entries Value} {entry : String × Value}
      {error : StructureError} :
      entry ∈ entries →
      Rejects registry type entry.2 error →
      Rejects registry (.mapping .str type) (.map entries) (error.under entry.1)
  | unknownRecord {name : String} (raw : Value) :
      registry.record? name = none →
      Rejects registry (.record name) raw (.atTop (.unregistered name))
  | notMapping {name : String} {recordType : RecordType (Typed Payload)} (raw : Value) :
      registry.record? name = some recordType →
      Rejects registry (.record name) raw (.atTop (recordType.notMapping raw))
  | field {name : String} {recordType : RecordType (Typed Payload)} {entries : Entries Value}
      {field : Field (Typed Payload)} {raw : Value} {error : StructureError} :
      registry.record? name = some recordType →
      field ∈ recordType.fields →
      field.input? entries = some raw →
      Rejects registry field.type raw error →
      Rejects registry (.record name) (.map entries) (error.under field.name)
  | refused {name : String} {recordType : RecordType (Typed Payload)} {entries : Entries Value}
      {field : Field (Typed Payload)} {error : StructureError} :
      registry.record? name = some recordType →
      field ∈ recordType.fields →
      registry.Refuses recordType entries field error →
      Rejects registry (.record name) (.map entries) error
  | unknownHook {name : String} (raw : Value) :
      registry.hook? name = none →
      Rejects registry (.custom name) raw (.atTop (.unregistered name))
  | hook {name reason : String} {hook : Hook Payload} {raw : Value} :
      registry.hook? name = some hook →
      hook.structurePayload raw = .error reason →
      Rejects registry (.custom name) raw (.atTop (.hook name reason))

variable {registry : Registry Payload}

/-! ## Agreement with the function -/

/-- Structuring ends only in errors that the value is rejected with. -/
theorem rejects_of_error
    (distinctFields : ∀ recordType ∈ registry.records, recordType.DistinctFields)
    {type : TypeExpr} {raw : Value} {error : StructureError}
    (failed : registry.structureAs raw type = .error error) :
    registry.Rejects type raw error := by
  induction type, raw using TypeExpr.inductionWithParts Value.partsInduction generalizing error with
  | optional inner raw inductionHypothesis =>
      cases present : raw.isNull with
      | true =>
          cases raw <;> try contradiction
      | false =>
          rw [structureAs_optional registry present] at failed
          exact .optional (inductionHypothesis failed)
  | scalar kind raw =>
      cases kind <;> cases raw <;>
        first
          | contradiction
          | (cases failed; exact .mismatch _ _)
  | any raw =>
      rw [structureAs_any] at failed
      contradiction
  | sequence item raw inductionHypothesis =>
      rcases (registry.structureAs_sequence_eq_error_iff item raw error).1 failed with
        ⟨items, rfl, itemsFailed⟩ | ⟨_, rfl⟩
      · rw [structureItems_eq_error_iff] at itemsFailed
        obtain ⟨position, part, found, inner, partFailed, rfl⟩ :=
          itemsFailed.exists_getElem?
        rw [Nat.zero_add]
        exact .sequence found
          (inductionHypothesis part (List.mem_of_getElem? found) item partFailed)
      · exact .mismatch _ raw
  | set item raw inductionHypothesis =>
      rcases (registry.structureAs_set_eq_error_iff item raw error).1 failed with
        ⟨items, rfl, itemsFailed⟩ | ⟨_, rfl⟩
      · rw [structureItems_eq_error_iff] at itemsFailed
        obtain ⟨position, part, found, inner, partFailed, rfl⟩ :=
          itemsFailed.exists_getElem?
        rw [Nat.zero_add]
        exact .set found (inductionHypothesis part (List.mem_of_getElem? found) item partFailed)
      · exact .mismatch _ raw
  | mapping key type raw inductionHypothesis =>
      rcases (registry.structureAs_mapping_eq_error_iff key type raw error).1 failed with
        ⟨entries, rfl, rfl, entriesFailed⟩ | ⟨_, rfl⟩
      · rw [structureEntries_eq_error_iff] at entriesFailed
        obtain ⟨position, entry, found, inner, entryFailed, rfl⟩ :=
          entriesFailed.exists_getElem?
        have member := List.mem_of_getElem? found
        exact .mapping member
          (inductionHypothesis entry.2 (Value.mem_parts_map member) type entryFailed)
      · exact .mismatch _ raw
  | record name raw inductionHypothesis =>
      rw [structureAs_record_eq_error_iff, structureRecord_eq_error_iff] at failed
      rcases failed with ⟨unknown, rfl⟩ | ⟨recordType, registered, notRead⟩
      · exact .unknownRecord raw unknown
      · rcases (registry.structureWith_eq_error_iff recordType raw error).1 notRead with
          ⟨entries, rfl, inputFailed⟩ | ⟨_, rfl⟩
        · have distinct := distinctFields recordType (record?_eq_some registered).1
          rcases (registry.structureInput_eq_error_iff distinct entries error).1 inputFailed with
            fieldFailed | ⟨_, fieldRefuses⟩
          · obtain ⟨position, field, found, part, inner, input, _, partFailed, rfl⟩ :=
              fieldFailed.exists_getElem?
            have partMember := Value.mem_parts_of_lookup (lookup_of_input? input)
            exact .field registered (List.mem_of_getElem? found) input
              (inductionHypothesis part partMember field.type partFailed)
          · obtain ⟨position, field, found, refuses⟩ := fieldRefuses.exists_getElem?
            exact .refused registered (List.mem_of_getElem? found) refuses
        · exact .notMapping raw registered
  | custom name raw =>
      rcases (registry.structureAs_custom_eq_error_iff name raw error).1 failed with
        ⟨unknown, rfl⟩ | ⟨hook, reason, registered, refused, rfl⟩
      · exact .unknownHook raw unknown
      · exact .hook registered refused

end Registry

end Recast
