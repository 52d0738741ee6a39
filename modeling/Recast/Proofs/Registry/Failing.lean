import Recast.Proofs.Registry.Reading

/-!
# When structuring fails

Structuring fails at the first part that fails, in order, and the error is that of the part, seen
from the container.  A record fails first of all at an input that is no value of the type of its
field; only when all inputs are, it fails at a field that refuses what it is given or is given
nothing.
-/

namespace Recast

variable {Payload : Type}

/-! ## Fields -/

namespace Field

theorem supplyAll_eq_error_iff {path : Path} (candidates : Entries (Candidate Payload))
    (fields : List (Field (Typed Payload))) (error : StructureError) :
    supplyAll path candidates fields = .error error ↔
      Outcome.FirstFailure
        (fun field => ∃ supplied, field.supplyFrom path candidates = .ok supplied)
        (fun _ field => field.supplyFrom path candidates = .error error) fields := by
  induction fields with
  | nil => simp [supplyAll, Outcome.not_firstFailure_nil]
  | cons field rest inductionHypothesis =>
      rw [supplyAll_cons, Outcome.bind_eq_error_iff, Outcome.firstFailure_cons_iff,
        ← inductionHypothesis, ← exists_and_right]
      refine or_congr Iff.rfl (exists_congr fun supplied => and_congr_right fun _ => ?_)
      simp [Outcome.bind_eq_error_iff]

end Field

namespace Registry

variable [BEq Payload] (registry : Registry Payload)

/-- What a field is given in the entries, if anything, is a value of its type. -/
def Supplies (entries : Entries Value) (field : Field (Typed Payload)) : Prop :=
  ∀ raw, field.input? entries = some raw → field.reportsNull raw = false →
    ∃ value, registry.structureAs raw field.type = .ok value

/-- Why a field has no value although what it is given is a value of its type. -/
inductive Refuses (recordType : RecordType (Typed Payload)) (entries : Entries Value)
    (field : Field (Typed Payload)) : StructureError → Prop
  | null {raw : Value} :
      field.input? entries = some raw →
      field.reportsNull raw = true →
      Refuses recordType entries field
        (.under field.name (.atTop (.invalid (.missing field.name))))
  | invalid {raw : Value} {value : Typed Payload} {failure : ValidationError} :
      field.input? entries = some raw →
      field.reportsNull raw = false →
      registry.structureAs raw field.type = .ok value →
      field.validate value = .error failure →
      Refuses recordType entries field (.under field.name (.atTop (.invalid failure)))
  | absent :
      field.input? entries = none →
      field.fallback? = none →
      Refuses recordType entries field (.atTop (.missingField recordType.name field.name))

/-! ## Fields that take or refuse -/

section Fields

variable {registry} {recordType : RecordType (Typed Payload)} {field : Field (Typed Payload)}
  {entries : Entries Value} {raw : Value}

theorem exists_takes_iff_of_no_input (absent : field.input? entries = none) :
    (∃ value, registry.Takes field entries value) ↔ ∃ value, field.fallback? = some value :=
  exists_congr fun _ => ⟨fun taken => taken.of_no_input absent, .filled absent⟩

theorem exists_takes_iff_of_input (input : field.input? entries = some raw) :
    (∃ value, registry.Takes field entries value) ↔
      field.reportsNull raw = false ∧
        ∃ value, registry.structureAs raw field.type = .ok value ∧
          field.validate value = .ok () := by
  constructor
  · rintro ⟨value, taken⟩
    obtain ⟨notReported, structured, validated⟩ := taken.of_input input
    exact ⟨notReported, value, structured, validated⟩
  · rintro ⟨notReported, value, structured, validated⟩
    exact ⟨value, .given input notReported structured validated⟩

theorem refuses_iff_of_no_input (absent : field.input? entries = none) (error : StructureError) :
    registry.Refuses recordType entries field error ↔
      field.fallback? = none ∧ error = .atTop (.missingField recordType.name field.name) := by
  constructor
  · rintro (⟨input, _⟩ | ⟨input, _⟩ | ⟨_, noFallback⟩)
    · rw [absent] at input
      contradiction
    · rw [absent] at input
      contradiction
    · exact ⟨noFallback, rfl⟩
  · rintro ⟨noFallback, rfl⟩
    exact .absent absent noFallback

theorem refuses_iff_of_input (input : field.input? entries = some raw) (error : StructureError) :
    registry.Refuses recordType entries field error ↔
      (field.reportsNull raw = true ∧
          error = .under field.name (.atTop (.invalid (.missing field.name)))) ∨
        field.reportsNull raw = false ∧
          ∃ failure, (∃ value, registry.structureAs raw field.type = .ok value ∧
              field.validate value = .error failure) ∧
            error = .under field.name (.atTop (.invalid failure)) := by
  constructor
  · intro refuses
    cases refuses with
    | null otherInput reported =>
        rw [input] at otherInput
        cases otherInput
        exact .inl ⟨reported, rfl⟩
    | invalid otherInput notReported structured refused =>
        rw [input] at otherInput
        cases otherInput
        exact .inr ⟨notReported, _, ⟨_, structured, refused⟩, rfl⟩
    | absent absent =>
        rw [input] at absent
        contradiction
  · rintro (⟨reported, rfl⟩ | ⟨notReported, failure, ⟨value, structured, refused⟩, rfl⟩)
    · exact .null input reported
    · exact .invalid input notReported structured refused

end Fields

/-! ## Supplied values -/

theorem supplyFrom_eq_error_iff (field : Field (Typed Payload)) (entries : Entries Value)
    (error : StructureError) :
    field.supplyFrom .root (registry.entryCandidates entries) = .error error ↔
      ∃ raw inner, field.input? entries = some raw ∧ field.reportsNull raw = false ∧
        registry.structureAs raw field.type = .error inner ∧ inner.under field.name = error := by
  rw [supplyFrom_eq]
  cases input : field.input? entries with
  | none => simp
  | some raw =>
      cases reported : field.reportsNull raw with
      | true => simp [reported]
      | false =>
          simp [reported, Outcome.map_eq_error_iff, Outcome.mapError_eq_error_iff]

theorem exists_supplyFrom_eq_ok_iff (field : Field (Typed Payload)) (entries : Entries Value) :
    (∃ supplied, field.supplyFrom .root (registry.entryCandidates entries) = .ok supplied) ↔
      registry.Supplies entries field := by
  rw [supplyFrom_eq, Supplies]
  cases input : field.input? entries with
  | none => simp
  | some raw =>
      cases reported : field.reportsNull raw with
      | true => simp [reported]
      | false =>
          simp [reported, Outcome.map_eq_ok_iff, Outcome.mapError_eq_ok_iff]

/-- Given what the fields supply, a field has no value exactly when it refuses what it is given. -/
theorem fieldValue_collect_eq_error_iff {recordType : RecordType (Typed Payload)}
    (distinct : recordType.DistinctFields) {entries : Entries Value}
    {suppliedOf : Field (Typed Payload) → Option (Typed Payload)}
    {field : Field (Typed Payload)} (member : field ∈ recordType.fields)
    (fromEntries :
      field.supplyFrom .root (registry.entryCandidates entries) = .ok (suppliedOf field))
    (error : StructureError) :
    recordType.fieldValue .root .trusted (Entries.collect Field.name suppliedOf recordType.fields)
        field = .error error ↔
      registry.Refuses recordType entries field error := by
  rw [RecordType.fieldValue_eq_error_iff, Entries.lookup_collect distinct suppliedOf member]
  simp only [Field.checkSupplied_eq_error_iff, reduceCtorEq, false_and, and_false, or_false]
  rw [supplyFrom_eq] at fromEntries
  constructor
  · rintro (⟨value, supplied, failure, invalid, rfl⟩ | ⟨nothing, noFallback, rfl⟩)
    · rw [supplied] at fromEntries
      cases input : field.input? entries with
      | none => simp [input] at fromEntries
      | some raw =>
          simp only [input] at fromEntries
          split at fromEntries
          · next reported =>
              cases fromEntries
              rw [Field.validate_missing (Bool.and_eq_true_iff.1 reported).2] at invalid
              cases invalid
              exact .null input reported
          · next notReported =>
              simp only [Outcome.map_eq_ok_iff, Outcome.mapError_eq_ok_iff] at fromEntries
              obtain ⟨structured, structuredOk, same⟩ := fromEntries
              cases same
              exact .invalid input (Bool.eq_false_iff.2 notReported) structuredOk invalid
    · rw [nothing] at fromEntries
      cases input : field.input? entries with
      | none => exact .absent input noFallback
      | some raw =>
          simp only [input] at fromEntries
          split at fromEntries
          · cases fromEntries
          · simp [Outcome.map_eq_ok_iff] at fromEntries
  · intro refuses
    cases refuses with
    | null input reported =>
        rw [input] at fromEntries
        simp only [reported, if_true] at fromEntries
        refine .inl ⟨.missing, (Except.ok.inj fromEntries).symm, _, ?_, rfl⟩
        exact Field.validate_missing (Bool.and_eq_true_iff.1 reported).2
    | invalid input notReported structured refused =>
        simp [input, notReported, structured, Except.mapError, Except.map] at fromEntries
        exact .inl ⟨_, fromEntries.symm, _, refused, rfl⟩
    | absent input noFallback =>
        rw [input] at fromEntries
        exact .inr ⟨(Except.ok.inj fromEntries).symm, noFallback, rfl⟩

/-! ## Records -/

/-- Given what the fields supply, the first field that refuses it is reported. -/
theorem assemble_collect_eq_error_iff {recordType : RecordType (Typed Payload)}
    (distinct : recordType.DistinctFields) {entries : Entries Value}
    {suppliedOf : Field (Typed Payload) → Option (Typed Payload)}
    (fromEntries : ∀ field ∈ recordType.fields,
      field.supplyFrom .root (registry.entryCandidates entries) = .ok (suppliedOf field))
    (error : StructureError) :
    recordType.assemble .root .trusted (Entries.collect Field.name suppliedOf recordType.fields) =
        .error error ↔
      Outcome.FirstFailure (fun field => ∃ value, registry.Takes field entries value)
        (fun _ field => registry.Refuses recordType entries field error) recordType.fields := by
  have declared : ∀ key ∈ Entries.keys
      (Entries.collect Field.name suppliedOf recordType.fields), recordType.declares key = true :=
    fun key member => (RecordType.declares_iff key).2 (Entries.mem_keys_collect member)
  rw [RecordType.assemble_eq_error_iff, RecordType.find?_undeclared_eq_none_iff.2 declared]
  simp only [reduceCtorEq, false_and, exists_false, and_false, or_false]
  refine Outcome.firstFailure_congr (fun field member => ?_) fun _ field member => ?_
  · exact exists_congr
      (registry.fieldValue_collect_eq_ok_iff distinct member (fromEntries field member))
  · exact registry.fieldValue_collect_eq_error_iff distinct member (fromEntries field member) error

/-- A record fails at the first input that is no value of the type of its field.  Where all inputs
are, it fails at the first field that refuses what it is given. -/
theorem structureInput_eq_error_iff {recordType : RecordType (Typed Payload)}
    (distinct : recordType.DistinctFields) (entries : Entries Value) (error : StructureError) :
    recordType.structureInput .root (registry.entryCandidates entries) = .error error ↔
      Outcome.FirstFailure (registry.Supplies entries)
          (fun _ field => ∃ raw inner, field.input? entries = some raw ∧
            field.reportsNull raw = false ∧ registry.structureAs raw field.type = .error inner ∧
              inner.under field.name = error) recordType.fields ∨
        (∀ field ∈ recordType.fields, registry.Supplies entries field) ∧
          Outcome.FirstFailure (fun field => ∃ value, registry.Takes field entries value)
            (fun _ field => registry.Refuses recordType entries field error) recordType.fields := by
  rw [RecordType.structureInput, Outcome.bind_eq_error_iff, Field.supplyAll_eq_error_iff]
  simp only [supplyFrom_eq_error_iff, exists_supplyFrom_eq_ok_iff, Outcome.bind_eq_error_iff]
  refine or_congr Iff.rfl ?_
  simp only [reduceCtorEq, and_false, exists_false, or_false]
  constructor
  · rintro ⟨supplied, suppliedOk, failed⟩
    obtain ⟨suppliedOf, fromEntries, rfl⟩ :=
      (Field.supplyAll_eq_ok_iff _ recordType.fields supplied).1 suppliedOk
    refine ⟨fun field member => ?_, (registry.assemble_collect_eq_error_iff distinct fromEntries
      error).1 failed⟩
    exact (registry.exists_supplyFrom_eq_ok_iff field entries).1 ⟨_, fromEntries field member⟩
  · rintro ⟨allSupply, failed⟩
    obtain ⟨suppliedOf, fromEntries⟩ := Outcome.exists_valueOf fun field member =>
      (registry.exists_supplyFrom_eq_ok_iff field entries).2 (allSupply field member)
    exact ⟨_, (Field.supplyAll_eq_ok_iff _ _ _).2 ⟨suppliedOf, fromEntries, rfl⟩,
      (registry.assemble_collect_eq_error_iff distinct fromEntries error).2 failed⟩

/-- A value other than a map is no record. -/
theorem structureWith_eq_error_iff (recordType : RecordType (Typed Payload)) (raw : Value)
    (error : StructureError) :
    registry.structureWith recordType raw = .error error ↔
      (∃ entries, raw = .map entries ∧
          recordType.structureInput .root (registry.entryCandidates entries) = .error error) ∨
        (raw.isMap = false ∧ .atTop (recordType.notMapping raw) = error) := by
  cases raw <;> simp [structureWith, Value.isMap]

/-! ## Types -/

theorem structureItems_eq_error_iff (item : TypeExpr) (start : Nat) (items : List Value)
    (error : StructureError) :
    Candidate.structureItems item .root start (registry.itemCandidates items) = .error error ↔
      Outcome.FirstFailure (fun raw => ∃ value, registry.structureAs raw item = .ok value)
        (fun position raw => ∃ inner, registry.structureAs raw item = .error inner ∧
          inner.under (toString (start + position)) = error) items := by
  induction items generalizing start with
  | nil => simp [itemCandidates, Candidate.structureItems, Outcome.not_firstFailure_nil]
  | cons raw rest inductionHypothesis =>
      rw [structureItems_cons, Outcome.bind_eq_error_iff,
        Outcome.firstFailure_cons_iff]
      simp only [Outcome.mapError_eq_error_iff, Outcome.mapError_eq_ok_iff,
        Outcome.bind_eq_error_iff, inductionHypothesis, reduceCtorEq, and_false, exists_false,
        or_false, exists_and_right, Nat.add_zero, Nat.add_assoc, Nat.add_comm 1]

theorem structureEntries_eq_error_iff (type : TypeExpr) (entries : Entries Value)
    (error : StructureError) :
    Candidate.structureEntries type .root (registry.entryCandidates entries) = .error error ↔
      Outcome.FirstFailure
        (fun entry => ∃ value, registry.structureAs entry.2 type = .ok value)
        (fun _ entry => ∃ inner, registry.structureAs entry.2 type = .error inner ∧
          inner.under entry.1 = error) entries := by
  rw [structureEntries_eq, Outcome.sequence_eq_error_iff, Outcome.firstFailure_map_iff]
  simp only [Outcome.mapError_eq_ok_iff, Outcome.mapError_eq_error_iff]

theorem structureAs_sequence_eq_error_iff (item : TypeExpr) (raw : Value)
    (error : StructureError) :
    registry.structureAs raw (.sequence item) = .error error ↔
      (∃ items, raw = .array items ∧
          Candidate.structureItems item .root 0 (registry.itemCandidates items) = .error error) ∨
        (raw.isArray = false ∧ .atTop ((TypeExpr.sequence item).mismatch raw) = error) := by
  cases raw with
  | array items =>
      simp [structureAs_sequence_array, Outcome.map_eq_error_iff, Value.isArray]
  | _ =>
      rw [structureAs_sequence_of_not_array registry item rfl]
      simp [Value.isArray]

theorem structureAs_set_eq_error_iff (item : TypeExpr) (raw : Value) (error : StructureError) :
    registry.structureAs raw (.set item) = .error error ↔
      (∃ items, raw = .array items ∧
          Candidate.structureItems item .root 0 (registry.itemCandidates items) = .error error) ∨
        (raw.isArray = false ∧ .atTop ((TypeExpr.set item).mismatch raw) = error) := by
  cases raw with
  | array items =>
      simp [structureAs_set_array, Outcome.map_eq_error_iff, Value.isArray]
  | _ =>
      rw [structureAs_set_of_not_array registry item rfl]
      simp [Value.isArray]

theorem structureAs_mapping_eq_error_iff (key type : TypeExpr) (raw : Value)
    (error : StructureError) :
    registry.structureAs raw (.mapping key type) = .error error ↔
      (∃ entries, key = .str ∧ raw = .map entries ∧
          Candidate.structureEntries type .root (registry.entryCandidates entries) = .error error) ∨
        ((key ≠ .str ∨ raw.isMap = false) ∧
          .atTop ((TypeExpr.mapping key type).mismatch raw) = error) := by
  cases raw with
  | map entries =>
      by_cases textKeys : key = .str
      · subst textKeys
        simp [structureAs_mapping_map, Outcome.map_eq_error_iff, Value.isMap]
      · simp [structureAs_mapping_of_ne registry textKeys, textKeys]
  | _ =>
      rw [structureAs_mapping_of_not_map registry key type rfl]
      simp [Value.isMap]

theorem structureAs_record_eq_error_iff (name : String) (raw : Value) (error : StructureError) :
    registry.structureAs raw (.record name) = .error error ↔
      registry.structureRecord name raw = .error error := by
  rw [structureAs_record_eq, Outcome.map_eq_error_iff]

theorem structureRecord_eq_error_iff (name : String) (raw : Value) (error : StructureError) :
    registry.structureRecord name raw = .error error ↔
      (registry.record? name = none ∧ .atTop (.unregistered name) = error) ∨
        ∃ recordType, registry.record? name = some recordType ∧
          registry.structureWith recordType raw = .error error := by
  rw [structureRecord]
  cases registry.record? name <;> simp

theorem structureAs_custom_eq_error_iff (name : String) (raw : Value) (error : StructureError) :
    registry.structureAs raw (.custom name) = .error error ↔
      (registry.hook? name = none ∧ .atTop (.unregistered name) = error) ∨
        ∃ hook reason, registry.hook? name = some hook ∧
          hook.structurePayload raw = .error reason ∧ .atTop (.hook name reason) = error := by
  rw [structureAs_custom_eq, structureCustom]
  cases registry.hook? name with
  | none => simp
  | some hook => cases structured : hook.structurePayload raw <;> simp [structured]

end Registry

end Recast
