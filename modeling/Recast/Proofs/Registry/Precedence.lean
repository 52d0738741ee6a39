import Recast.Proofs.Registry.Construction
import Recast.Proofs.Registry.Failing

/-!
# Which of several errors is reported

Of all that is wrong with a value, one error is reported, the same one wherever the value stands,
with the path of its place in front.  For items and entries it is the error of the first part that
fails, as it is for this part on its own, with the component of the part in front of its path.  A
record goes over its fields twice.  The error of the first value that does not fit the type of its
field comes before all others, wherever the field stands; only where every value fits, the first
field is reported that has no value though one is required, or whose validator refuses the value.
-/

namespace Recast

variable {Payload : Type}

/-! ## The errors of one field -/

namespace Field

/-- What is there for a field to be structured.  A `null` that is handled as missing is not. -/
def present? {α : Type} (field : Field α) (entries : Entries Value) : Option Value :=
  (field.input? entries).filter fun raw => !field.reportsNull raw

theorem present?_eq_some_iff {α : Type} (field : Field α) (entries : Entries Value)
    (raw : Value) :
    field.present? entries = some raw ↔
      field.input? entries = some raw ∧ field.reportsNull raw = false := by
  rw [present?, Option.filter_eq_some_iff, Bool.not_eq_true']

/-- A value is required where nothing steps in for it. -/
theorem isRequired_iff (field : Field (Typed Payload)) :
    field.isRequired = true ↔ field.fallback? = none := by
  rw [fallback?_eq_none_iff, isRequired, Bool.and_eq_true, Option.isNone_iff_eq_none,
    Bool.not_eq_true']

end Field

namespace Registry

variable [BEq Payload] (registry : Registry Payload)

/-- The error of what is there for a field, on its own, seen from the record. -/
def misfit? (entries : Entries Value) (field : Field (Typed Payload)) : Option StructureError :=
  (field.present? entries).bind fun raw =>
    (Outcome.error? (registry.structureAs raw field.type)).map (.under field.name)

/-- What the validator of a field objects to in a value that fits the type of the field. -/
def objection? (field : Field (Typed Payload)) (raw : Value) : Option ValidationError :=
  if field.reportsNull raw then
    some (.missing field.name)
  else
    (registry.structureAs raw field.type).toOption.bind fun value =>
      Outcome.error? (field.validate value)

/-- The error of a field that gets no value: it is required and absent, or invalid. -/
def shortcoming? (recordType : RecordType (Typed Payload)) (entries : Entries Value)
    (field : Field (Typed Payload)) : Option StructureError :=
  match field.input? entries with
  | none =>
      if field.isRequired then
        some (.atTop (.missingField recordType.name field.name))
      else
        none
  | some raw =>
      (registry.objection? field raw).map fun failure =>
        .under field.name (.atTop (.invalid failure))

variable {alphabet : Text.Alphabet} {registry} {recordType : RecordType (Typed Payload)}
  {field : Field (Typed Payload)}
  {entries : Entries Value}

theorem misfit?_eq_some_iff (error : StructureError) :
    registry.misfit? entries field = some error ↔
      ∃ raw inner, field.input? entries = some raw ∧ field.reportsNull raw = false ∧
        registry.structureAs raw field.type = .error inner ∧ inner.under field.name = error := by
  simp only [misfit?, Option.bind_eq_some_iff, Option.map_eq_some_iff, Field.present?_eq_some_iff,
    Outcome.error?_eq_some_iff, and_assoc, exists_and_left]

theorem misfit?_eq_none_iff :
    registry.misfit? entries field = none ↔ registry.Supplies entries field := by
  simp only [misfit?, Option.bind_eq_none_iff, Option.map_eq_none_iff, Field.present?_eq_some_iff,
    Outcome.error?_eq_none_iff, Supplies, and_imp]

theorem objection?_eq_some_iff (raw : Value) (failure : ValidationError) :
    registry.objection? field raw = some failure ↔
      (field.reportsNull raw = true ∧ failure = .missing field.name) ∨
        field.reportsNull raw = false ∧
          ∃ value, registry.structureAs raw field.type = .ok value ∧
            field.validate value = .error failure := by
  rw [objection?]
  cases field.reportsNull raw with
  | true => simp [eq_comm]
  | false =>
      cases registry.structureAs raw field.type with
      | error error => simp [Except.toOption]
      | ok value => simp [Except.toOption, Outcome.error?_eq_some_iff]

theorem shortcoming?_eq_some_iff (error : StructureError) :
    registry.shortcoming? recordType entries field = some error ↔
      registry.Refuses recordType entries field error := by
  rw [shortcoming?]
  cases input : field.input? entries with
  | none =>
      rw [refuses_iff_of_no_input input, ← field.isRequired_iff]
      dsimp only
      rw [Option.ite_none_right_eq_some, Option.some.injEq, eq_comm (a := error)]
  | some raw =>
      rw [refuses_iff_of_input input]
      simp only [Option.map_eq_some_iff, objection?_eq_some_iff]
      constructor
      · rintro ⟨failure, ⟨reported, rfl⟩ | ⟨notReported, value, structured, refused⟩, rfl⟩
        · exact .inl ⟨reported, rfl⟩
        · exact .inr ⟨notReported, failure, ⟨value, structured, refused⟩, rfl⟩
      · rintro (⟨reported, rfl⟩ | ⟨notReported, failure, refused, rfl⟩)
        · exact ⟨_, .inl ⟨reported, rfl⟩, rfl⟩
        · exact ⟨failure, .inr ⟨notReported, refused⟩, rfl⟩

/-- A field without an error takes a value. -/
theorem shortcoming?_eq_none_iff (supplies : registry.Supplies entries field) :
    registry.shortcoming? recordType entries field = none ↔
      ∃ value, registry.Takes field entries value := by
  rw [shortcoming?]
  cases input : field.input? entries with
  | none =>
      rw [exists_takes_iff_of_no_input input, ← Option.ne_none_iff_exists', ne_eq,
        ← field.isRequired_iff]
      simp
  | some raw =>
      rw [exists_takes_iff_of_input input, Option.map_eq_none_iff, objection?]
      cases reported : field.reportsNull raw with
      | true => simp
      | false =>
          obtain ⟨value, structured⟩ := supplies raw input reported
          simp only [structured, Except.toOption, Bool.false_eq_true, if_false, Option.bind_some,
            Outcome.error?_eq_none_iff, Except.ok.injEq, exists_eq_left', true_and]
          exact ⟨fun ⟨_, validated⟩ => validated, fun validated => ⟨(), validated⟩⟩

/-! ## The error of a whole -/

theorem error?_structureItems (item : TypeExpr) (start : Nat) (items : List Value) :
    Outcome.error? (Candidate.structureItems item .root start (registry.itemCandidates items)) =
      (items.zipIdx start).findSome? fun part =>
        (Outcome.error? (registry.structureAs part.1 item)).map (.under (toString part.2)) := by
  induction items generalizing start with
  | nil => rfl
  | cons raw rest inductionHypothesis =>
      rw [structureItems_cons, List.zipIdx_cons, Outcome.findSome?_cons_eq_or,
        ← inductionHypothesis, ← Outcome.error?_mapError]
      exact Outcome.error?_bind fun _ => Outcome.error?_bind_ok _ _

theorem error?_structureEntries (type : TypeExpr) (entries : Entries Value) :
    Outcome.error? (Candidate.structureEntries type .root (registry.entryCandidates entries)) =
      entries.findSome? fun entry =>
        (Outcome.error? (registry.structureAs entry.2 type)).map (.under entry.1) := by
  rw [structureEntries_eq, Outcome.error?_sequence, List.findSome?_map]
  simp only [Function.comp_def, Outcome.error?_mapError]

/-- A misfit of any field comes before the shortcomings of all fields. -/
theorem error?_structureInput (distinct : recordType.DistinctFields) (entries : Entries Value) :
    Outcome.error? (recordType.structureInput .root (registry.entryCandidates entries)) =
      (recordType.fields.findSome? (registry.misfit? entries)).or
        (recordType.fields.findSome? (registry.shortcoming? recordType entries)) := by
  ext error
  rw [Outcome.error?_eq_some_iff, structureInput_eq_error_iff registry distinct,
    Option.or_eq_some_iff, Outcome.findSome?_eq_some_iff_firstFailure,
    Outcome.findSome?_eq_some_iff_firstFailure, List.findSome?_eq_none_iff]
  simp only [misfit?_eq_none_iff, misfit?_eq_some_iff]
  refine or_congr Iff.rfl (and_congr_right fun allSupply => ?_)
  refine Outcome.firstFailure_congr (fun field member => ?_) fun _ field _ => ?_
  · exact (shortcoming?_eq_none_iff (allSupply field member)).symm
  · exact (shortcoming?_eq_some_iff error).symm

/-- In every place a value fails with the error that it has on its own, with the place in front of
its path.  Items and entries fail with the error of the first of them that fails on its own, seen
from the whole, and only if one does.  A record fails with the error of the first value that fails
on its own as the type of its field, whatever else is wrong; where there is none, it fails at the
first field that is absent though required or that is invalid. -/
theorem first_error_is_reported (built : registry.Built alphabet) :
    (∀ raw place type,
      registry.structureAt raw place type =
        (registry.structureAs raw type).mapError (.below place)) ∧
      (∀ item items type, type = .sequence item ∨ type = .set item →
        Outcome.error? (registry.structureAs (.array items) type) =
          items.zipIdx.findSome? fun part =>
            (Outcome.error? (registry.structureAs part.1 item)).map
              (.under (toString part.2))) ∧
      (∀ type entries,
        Outcome.error? (registry.structureAs (.map entries) (.mapping .str type)) =
          entries.findSome? fun entry =>
            (Outcome.error? (registry.structureAs entry.2 type)).map (.under entry.1)) ∧
      ∀ name recordType, registry.record? name = some recordType → ∀ entries,
        Outcome.error? (registry.structureRecord name (.map entries)) =
          (recordType.fields.findSome? (registry.misfit? entries)).or
            (recordType.fields.findSome? (registry.shortcoming? recordType entries)) := by
  refine ⟨registry.structureAt_eq, ?_, ?_, ?_⟩
  · rintro item items type (rfl | rfl)
    · rw [structureAs_sequence_array, Outcome.error?_map, error?_structureItems]
    · rw [structureAs_set_array, Outcome.error?_map, error?_structureItems]
  · intro type entries
    rw [structureAs_mapping_map, Outcome.error?_map, error?_structureEntries]
  · intro name recordType registered entries
    have distinct := (built.coherent.soundIn registered).distinct
    simp only [structureRecord, registered, structureWith]
    exact error?_structureInput distinct entries

end Registry

/-! ## Pets with several faults -/

namespace Sample

/-- No name is given, and the age, which is declared after it, is no number. -/
def namelessEntries : Entries Value :=
  [("tag", .string "T-3"), ("age", .string "two")]

/-- The age is reported and not the missing name, elsewhere behind the path of the place.  Once the
age is right, the missing name is reported, in a list behind the position of the pet. -/
theorem first_errors_nameless :
    registry.structureAt (.map namelessEntries) ⟨["pets", "3"]⟩ (.record "Pet") =
        .error ⟨⟨["pets", "3", "age"]⟩, .typeMismatch "int" "string"⟩ ∧
      Outcome.error? (registry.structureRecord "Pet" (.map namelessEntries)) =
        some ⟨⟨["age"]⟩, .typeMismatch "int" "string"⟩ ∧
      Outcome.error? (registry.structureAs
          (.array [.map strayEntries, .map (Entries.insert namelessEntries "age" .null), .null])
          (.set (.record "Pet"))) =
        some ⟨⟨["1"]⟩, .missingField "Pet" "name"⟩ := by
  obtain ⟨inPlace, ofItems, _, ofRecord⟩ := Registry.first_error_is_reported built_registry
  refine ⟨?_, ?_, ?_⟩
  · rw [inPlace]
    rfl
  · rw [ofRecord "Pet" petType rfl]
    rfl
  · rw [ofItems (.record "Pet") _ _ (.inr rfl)]
    rfl

end Sample

end Recast
