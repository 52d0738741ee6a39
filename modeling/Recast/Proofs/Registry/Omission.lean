import Recast.Proofs.Registry.History
import Recast.Proofs.Registry.Mutation
import Recast.Proofs.Registry.Precedence

/-!
# Defaults that are left out and defaults that are written

Where a field has a default, a map that leaves the field out is read like the map with the default
written into it, at whatever place.  What is left out is filled in with what the default was
structured as when the record type was declared.  What is written is structured anew, to the same
value or error in every later registry, and no validator looks at it, since a field with a default
has none.  A `null` that is the default of an optional field is treated like no entry at all.
-/

namespace Recast

namespace Entries

variable {α : Type} {before after : Entries α} {key : String} {value : α}

/-- A new entry is found under its key. -/
theorem lookup_append_cons_self (absent : (before ++ after).lookup key = none) :
    (before ++ (key, value) :: after).lookup key = some value := by
  rw [List.lookup_append, Option.or_eq_none_iff] at absent
  rw [List.lookup_append, absent.1, Option.none_or, List.lookup_cons_self]

/-- A new entry does not show under other keys. -/
theorem lookup_append_cons_of_ne {other : String} (different : other ≠ key) :
    (before ++ (key, value) :: after).lookup other = (before ++ after).lookup other := by
  rw [List.lookup_append, List.lookup_append, List.lookup_cons, beq_false_of_ne different]

end Entries

variable {Payload : Type} [BEq Payload]

namespace Registry

variable {registry : Registry Payload} {recordType : RecordType (Typed Payload)}
  {field : Field (Typed Payload)} {entries others : Entries Value}

/-! ## Fields that are read alike -/

/-- The field makes the same of both lists of entries: it takes the same value or fails with the
same error. -/
structure ReadsSame (registry : Registry Payload) (recordType : RecordType (Typed Payload))
    (entries others : Entries Value) (field : Field (Typed Payload)) : Prop where
  misfit : registry.misfit? entries field = registry.misfit? others field
  shortcoming : registry.shortcoming? recordType entries field =
    registry.shortcoming? recordType others field
  takes : ∀ value, registry.Takes field entries value → registry.Takes field others value

/-- A field looks at nothing but its input. -/
theorem ReadsSame.of_input?_eq (same : field.input? entries = field.input? others) :
    registry.ReadsSame recordType entries others field where
  misfit := by rw [misfit?, misfit?, Field.present?, Field.present?, same]
  shortcoming := by rw [shortcoming?, shortcoming?, same]
  takes value taken := by
    cases input : field.input? entries with
    | none => exact .filled (same ▸ input) (taken.of_no_input input)
    | some raw =>
        obtain ⟨notReported, structured, validated⟩ := taken.of_input input
        exact .given (same ▸ input) notReported structured validated

/-- Where all fields make the same of two lists of entries and the same undeclared entries are kept,
the records differ at most in the key order that they remember. -/
theorem structureInput_eq_of_readsSame (distinct : recordType.DistinctFields)
    (same : ∀ field ∈ recordType.fields, registry.ReadsSame recordType entries others field)
    (sameKept : entries.filter (fun entry => !recordType.declares entry.1) =
      others.filter fun entry => !recordType.declares entry.1) :
    (recordType.structureInput .root (registry.entryCandidates entries)).map
        Record.withoutOwnLayout =
      (recordType.structureInput .root (registry.entryCandidates others)).map
        Record.withoutOwnLayout := by
  have sameMisfit : recordType.fields.findSome? (registry.misfit? entries) =
      recordType.fields.findSome? (registry.misfit? others) :=
    Outcome.findSome?_congr fun field member => (same field member).misfit
  have sameShortcoming : recordType.fields.findSome? (registry.shortcoming? recordType entries) =
      recordType.fields.findSome? (registry.shortcoming? recordType others) :=
    Outcome.findSome?_congr fun field member => (same field member).shortcoming
  have sameError :
      Outcome.error? (recordType.structureInput .root (registry.entryCandidates entries)) =
        Outcome.error? (recordType.structureInput .root (registry.entryCandidates others)) := by
    rw [error?_structureInput distinct, error?_structureInput distinct, sameMisfit, sameShortcoming]
  cases read : recordType.structureInput .root (registry.entryCandidates entries) with
  | error error =>
      rw [read] at sameError
      rw [(Outcome.error?_eq_some_iff _ _).1 sameError.symm]
  | ok record =>
      obtain ⟨valueOf, taken, rfl⟩ :=
        (structureInput_eq_ok_iff registry distinct entries record).1 read
      have readToo : recordType.structureInput .root (registry.entryCandidates others) =
          .ok (recordType.reading valueOf others) :=
        (structureInput_eq_ok_iff registry distinct others _).2
          ⟨valueOf, fun field member => (same field member).takes _ (taken field member), rfl⟩
      rw [readToo]
      simp only [Except.map, Record.withoutOwnLayout, RecordType.reading, sameKept]

/-! ## Fields with defaults -/

/-- A field without a validator takes a default that is written for it as the value that the default
is structured as, and so does a field that nothing is written for. -/
theorem ReadsSame.of_default {default : FieldDefault (Typed Payload)}
    (declared : field.default? = some default) (unchecked : field.validator? = none)
    (structured : registry.structureAs default.raw field.type = .ok default.typed)
    (absent : entries.lookup field.name = none)
    (written : others.lookup field.name = some default.raw) :
    registry.ReadsSame recordType entries others field := by
  have noInput : field.input? entries = none := by rw [Field.input?, absent, Option.filter_none]
  have input := Field.input?_of_lookup written
  split at input
  · -- A `null` for an optional field: neither list has an input.
    exact .of_input?_eq (noInput.trans input.symm)
  · have notRequired : field.isRequired = false := by
      rw [Field.isRequired, declared]
      rfl
    have notReported : field.reportsNull default.raw = false := by
      rw [Field.reportsNull, unchecked]
      exact Bool.and_false _
    have validated := Field.validate_of_no_validator unchecked default.typed
    refine ⟨?_, ?_, fun value taken => ?_⟩
    · have noMisfit : registry.Supplies others field := by
        intro raw otherInput _
        rw [input] at otherInput
        cases otherInput
        exact ⟨_, structured⟩
      rw [misfit?_eq_none_iff.2 noMisfit, misfit?, Field.present?, noInput]
      rfl
    · rw [shortcoming?, shortcoming?, noInput, input]
      simp [notRequired, objection?, notReported, structured, Except.toOption, validated,
        Outcome.error?]
    · rw [← typed_of_fallback? (taken.of_no_input noInput) declared]
      exact .given input notReported structured validated

/-- Leaving a field with a default out of a map is writing its default into the map, at any place,
in every registry that a history of declarations leads to. -/
theorem omitted_default_reads_as_written (alphabet : Text.Alphabet)
    (history : List (Declaration Payload)) {name : String} {recordType : RecordType (Typed Payload)}
    (registered : (run alphabet history).record? name = some recordType)
    {field : Field (Typed Payload)} (member : field ∈ recordType.fields)
    {default : FieldDefault (Typed Payload)} (declared : field.default? = some default)
    {before after : Entries Value} (absent : (before ++ after).lookup field.name = none) :
    ((run alphabet history).structureRecord name (.map (before ++ after))).map
        Record.withoutOwnLayout =
      ((run alphabet history).structureRecord name
        (.map (before ++ (field.name, default.raw) :: after))).map Record.withoutOwnLayout := by
  obtain ⟨_, inOrder⟩ := (inOrder_run alphabet history).of_mem (record?_eq_some registered).1
  have distinct := inOrder.distinctFields
  have unchecked : field.validator? = none := by
    rw [inOrder.validators field member, declared]
    rfl
  have structured := inOrder.defaults field member default declared
  have isDeclared : recordType.declares field.name = true :=
    (RecordType.declares_iff field.name).2 (List.mem_map_of_mem member)
  simp only [structureRecord, registered, structureWith]
  apply structureInput_eq_of_readsSame distinct
  · intro other otherMember
    by_cases same : other.name = field.name
    · rw [List.inj_on_of_nodup_map distinct otherMember member same]
      exact .of_default declared unchecked structured absent
        (Entries.lookup_append_cons_self absent)
    · apply ReadsSame.of_input?_eq
      rw [Field.input?, Field.input?, Entries.lookup_append_cons_of_ne same]
  · simp [List.filter_append, isDeclared]

end Registry

/-! ## A form with defaults that are `null` or empty -/

namespace Sample

/-- Stamps are texts; a form without a stamp is stamped with the empty text. -/
def stampHook : Hook String where
  structurePayload
    | .null => .ok ""
    | .string text => .ok text
    | _ => .error "a stamp is a text"
  payloadType := "stamp"
  unstructurePayload? text := some (.string text)

def formSpec : RecordSpec where
  name := "Form"
  isOpen := true
  fields := [
    ⟨"title", .tree .str, none⟩,
    ⟨"due", .tree (.optional .str), some .null⟩,
    ⟨"memo", .tree .any, some .null⟩,
    ⟨"stamp", .tree (.custom "Stamp"), some .null⟩,
    ⟨"labels", .tree (.sequence .str), some (.array [])⟩]

def formType : RecordType (Typed String) where
  name := "Form"
  isOpen := true
  fields := [
    ⟨"title", .str, none, some .nonEmpty⟩,
    ⟨"due", .optional .str, some ⟨.null, .missing⟩, none⟩,
    ⟨"memo", .any, some ⟨.null, .raw .null⟩, none⟩,
    ⟨"stamp", .custom "Stamp", some ⟨.null, .custom "Stamp" ""⟩, none⟩,
    ⟨"labels", .sequence .str, some ⟨.array [], .sequence []⟩, none⟩]

/-- Pets are declared after forms, at first without the hook that they refer to. -/
def formHistory : List (Declaration String) :=
  [.hook "Stamp" stampHook, .record formSpec, .record petSpec, .hook "Tag" tagHook,
    .record petSpec]

/-- Each of the defaults may be written between the other entries of a form or left out. -/
theorem omitted_defaults_of_forms :
    (Registry.run Text.unicode formHistory).record? "Form" = some formType ∧
      ∀ field ∈ formType.fields, ∀ default, field.default? = some default →
        ((Registry.run Text.unicode formHistory).structureRecord "Form"
            (.map [("title", .string "Leave"), ("room", .integer 4)])).map
              Record.withoutOwnLayout =
          ((Registry.run Text.unicode formHistory).structureRecord "Form"
            (.map [("title", .string "Leave"), (field.name, default.raw),
              ("room", .integer 4)])).map Record.withoutOwnLayout := by
  have registered : (Registry.run Text.unicode formHistory).record? "Form" = some formType := by rfl
  refine ⟨registered, fun field member default declared => ?_⟩
  have absent : ([("title", .string "Leave")] ++ [("room", .integer 4)] : Entries Value).lookup
      field.name = none := by
    simp only [formType, List.mem_cons, List.not_mem_nil, or_false] at member
    rcases member with rfl | rfl | rfl | rfl | rfl
    · exact nomatch declared
    all_goals rfl
  exact Registry.omitted_default_reads_as_written Text.unicode formHistory registered member
    declared absent

end Sample

end Recast
