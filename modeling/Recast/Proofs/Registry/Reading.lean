import Recast.Proofs.Record.Assembly
import Recast.Proofs.Registry.Relocation

/-!
# When structuring succeeds

For each form of type, structuring succeeds on values of a certain form, on condition that it
succeeds on their parts.  What the parts structure to is given by a function.  A record is read
when each declared field takes a value: from the entry of its name, or else from its fallback.
-/

namespace Recast

variable {Payload : Type}

/-! ## Fields -/

namespace Field

/-- The input that a field takes: the entry of its name, except for a `null` that an optional
field treats like no entry. -/
def input? {α : Type} (field : Field α) (entries : Entries Value) : Option Value :=
  (entries.lookup field.name).filter fun raw => !(raw.isNull && field.type.isOptional)

theorem input?_of_lookup {α : Type} {field : Field α} {entries : Entries Value} {raw : Value}
    (found : entries.lookup field.name = some raw) :
    field.input? entries =
      if raw.isNull && field.type.isOptional then none else some raw := by
  rw [input?, found, Option.filter_some]
  cases raw.isNull && field.type.isOptional <;> rfl

/-- A field that is not optional takes whatever is there. -/
theorem input?_of_required {α : Type} {field : Field α} (required : field.type.isOptional = false)
    (entries : Entries Value) :
    field.input? entries = entries.lookup field.name := by
  rw [input?, required]
  cases entries.lookup field.name <;> simp

/-- Whether a value is a `null` that is left for the validator of the field to report. -/
def reportsNull {α : Type} (field : Field α) (raw : Value) : Bool :=
  raw.isNull && !field.type.acceptsNull && field.validator?.isSome

theorem validate_missing {field : Field (Typed Payload)} (checked : field.validator?.isSome) :
    field.validate .missing = .error (.missing field.name) := by
  obtain ⟨validator, attached⟩ := Option.isSome_iff_exists.1 checked
  rw [validate, attached]
  rfl

/-- What a field supplies from the candidates, if there is one of its name. -/
def supplyFrom (path : Path) (candidates : Entries (Candidate Payload))
    (field : Field (Typed Payload)) : Except StructureError (Option (Typed Payload)) :=
  match candidates.lookup field.name with
  | none => .ok none
  | some candidate => field.supply path candidate

variable {path : Path}

theorem supplyAll_cons (candidates : Entries (Candidate Payload)) (field : Field (Typed Payload))
    (rest : List (Field (Typed Payload))) :
    supplyAll path candidates (field :: rest) = (do
      let given ← field.supplyFrom path candidates
      let others ← supplyAll path candidates rest
      .ok ((given.map (field.name, ·)).toList ++ others)) := by
  rw [supplyAll, supplyFrom]
  cases candidates.lookup field.name with
  | none => cases supplyAll path candidates rest <;> rfl
  | some candidate =>
      dsimp only
      cases field.supply path candidate with
      | error error => rfl
      | ok given => cases given <;> cases supplyAll path candidates rest <;> rfl

theorem supplyAll_eq_ok_iff (candidates : Entries (Candidate Payload))
    (fields : List (Field (Typed Payload))) (supplied : Entries (Typed Payload)) :
    supplyAll path candidates fields = .ok supplied ↔
      ∃ suppliedOf : Field (Typed Payload) → Option (Typed Payload),
        (∀ field ∈ fields, field.supplyFrom path candidates = .ok (suppliedOf field)) ∧
          supplied = Entries.collect Field.name suppliedOf fields := by
  constructor
  · intro computed
    refine ⟨fun field => Outcome.value (field.supplyFrom path candidates), ?_⟩
    induction fields generalizing supplied with
    | nil =>
        cases computed
        exact ⟨fun _ member => absurd member List.not_mem_nil, rfl⟩
    | cons field rest inductionHypothesis =>
        simp only [supplyAll_cons, Outcome.bind_eq_ok_iff] at computed
        obtain ⟨given, fieldSupplied, others, restSupplied, joined⟩ := computed
        obtain ⟨restComputed, rfl⟩ := inductionHypothesis others restSupplied
        cases joined
        refine ⟨List.forall_mem_cons.2 ⟨?_, restComputed⟩, ?_⟩
        · simp only [fieldSupplied, Outcome.value_ok]
        · cases given <;> simp [Entries.collect, fieldSupplied]
  · rintro ⟨suppliedOf, computed, rfl⟩
    induction fields with
    | nil => rfl
    | cons field rest inductionHypothesis =>
        rw [List.forall_mem_cons] at computed
        rw [supplyAll_cons, computed.1, inductionHypothesis computed.2]
        cases given : suppliedOf field <;>
          simp [Entries.collect, given, bind, Except.bind]

end Field

namespace RecordType

variable {α : Type}

/-- The record of given values that is read from the entries: an open type keeps the entries
that it does not declare, and the order of all. -/
def reading (recordType : RecordType α) (valueOf : Field α → α) (entries : Entries Value) :
    Record α where
  recordType := recordType
  values := recordType.table valueOf
  extras? :=
    if recordType.isOpen then
      some (entries.filter fun entry => !recordType.declares entry.1)
    else
      none
  layout := if recordType.isOpen then Entries.keys entries else []

end RecordType

namespace Registry

variable [BEq Payload] (registry : Registry Payload)

variable {registry} in
omit [BEq Payload] in
theorem record?_eq_some {name : String} {recordType : RecordType (Typed Payload)}
    (found : registry.record? name = some recordType) :
    recordType ∈ registry.records ∧ recordType.name = name :=
  ⟨List.mem_of_find?_eq_some found, by simpa using List.find?_some found⟩

omit [BEq Payload] in
theorem lookup_of_input? {field : Field (Typed Payload)} {entries : Entries Value} {raw : Value}
    (input : field.input? entries = some raw) :
    entries.lookup field.name = some raw :=
  (Option.filter_eq_some_iff.1 input).1

/-- A field of a record takes the value when the record is read from the entries. -/
inductive Takes (field : Field (Typed Payload)) (entries : Entries Value)
    (value : Typed Payload) : Prop
  | given {raw : Value} :
      field.input? entries = some raw →
      field.reportsNull raw = false →
      registry.structureAs raw field.type = .ok value →
      field.validate value = .ok () →
      Takes field entries value
  | filled :
      field.input? entries = none →
      field.fallback? = some value →
      Takes field entries value

variable {registry} in
theorem Takes.of_input {field : Field (Typed Payload)} {entries : Entries Value}
    {value : Typed Payload} (taken : registry.Takes field entries value) {raw : Value}
    (input : field.input? entries = some raw) :
    field.reportsNull raw = false ∧ registry.structureAs raw field.type = .ok value ∧
      field.validate value = .ok () := by
  cases taken with
  | given found notReported structured validated =>
      rw [found] at input
      cases input
      exact ⟨notReported, structured, validated⟩
  | filled absent _ =>
      rw [absent] at input
      contradiction

variable {registry} in
theorem Takes.of_no_input {field : Field (Typed Payload)} {entries : Entries Value}
    {value : Typed Payload} (taken : registry.Takes field entries value)
    (absent : field.input? entries = none) :
    field.fallback? = some value := by
  cases taken with
  | given found _ _ _ =>
      rw [found] at absent
      contradiction
  | filled _ fallback => exact fallback

/-! ## Records -/

theorem lookup_entryCandidates (entries : Entries Value) (key : String) :
    (registry.entryCandidates entries).lookup key =
      (entries.lookup key).map fun raw => ⟨raw, registry.structureAt raw⟩ := by
  rw [entryCandidates_eq_mapValues, Entries.lookup_mapValues]

/-- Beside what the fields supply, a record is read from the entries alone. -/
theorem structureInput_eq (recordType : RecordType (Typed Payload)) (entries : Entries Value) :
    recordType.structureInput .root (registry.entryCandidates entries) = (do
      let supplied ← Field.supplyAll .root (registry.entryCandidates entries) recordType.fields
      let values ← recordType.assemble .root .trusted supplied
      .ok ⟨recordType, values,
        if recordType.isOpen then
          some (entries.filter fun entry => !recordType.declares entry.1)
        else none,
        if recordType.isOpen then Entries.keys entries else []⟩) := by
  have undeclared : Entries.mapValues Candidate.raw
      ((registry.entryCandidates entries).filter fun entry => !recordType.declares entry.1) =
        entries.filter fun entry => !recordType.declares entry.1 := by
    rw [entryCandidates_eq_mapValues, Entries.mapValues, Entries.mapValues, List.filter_map,
      List.map_map]
    simp [Function.comp_def]
  have keys : Entries.keys (registry.entryCandidates entries) = Entries.keys entries := by
    rw [entryCandidates_eq_mapValues, Entries.keys_mapValues]
  simp only [RecordType.structureInput, undeclared, keys]

/-- A field without input supplies nothing, a `null` that it reports supplies the missing value,
and other input supplies what it is structured as. -/
theorem supplyFrom_eq (field : Field (Typed Payload)) (entries : Entries Value) :
    field.supplyFrom .root (registry.entryCandidates entries) =
      match field.input? entries with
      | none => .ok none
      | some raw =>
          if field.reportsNull raw then
            .ok (some .missing)
          else
            ((registry.structureAs raw field.type).mapError (.under field.name)).map some := by
  rw [Field.supplyFrom, lookup_entryCandidates]
  cases found : entries.lookup field.name with
  | none => simp [Field.input?, found]
  | some raw =>
      rw [Field.input?_of_lookup found]
      simp only [Option.map_some, Field.supply, Field.reportsNull, structureAt_child]
      split
      · rfl
      · refine if_congr Iff.rfl rfl ?_
        cases registry.structureAs raw field.type <;> rfl

/-- A field takes a value exactly when what it supplies passes, or its fallback steps in. -/
theorem takes_iff_supplyFrom (field : Field (Typed Payload)) (entries : Entries Value)
    (value : Typed Payload) :
    registry.Takes field entries value ↔
      ∃ supplied, field.supplyFrom .root (registry.entryCandidates entries) = .ok supplied ∧
        ((supplied = some value ∧ field.validate value = .ok ()) ∨
          (supplied = none ∧ field.fallback? = some value)) := by
  rw [supplyFrom_eq]
  constructor
  · rintro (⟨input, notReported, structured, validated⟩ | ⟨absent, fallback⟩)
    · refine ⟨some value, ?_, .inl ⟨rfl, validated⟩⟩
      simp [input, notReported, structured, Except.mapError, Except.map]
    · refine ⟨none, ?_, .inr ⟨rfl, fallback⟩⟩
      rw [absent]
  · rintro ⟨supplied, fromEntry, taken⟩
    cases input : field.input? entries with
    | none =>
        rw [input] at fromEntry
        cases fromEntry
        rcases taken with ⟨impossible, _⟩ | ⟨_, fallback⟩
        · contradiction
        · exact .filled input fallback
    | some raw =>
        simp only [input] at fromEntry
        split at fromEntry
        · next reported =>
            -- The validator refuses the missing value that stands for this `null`.
            cases fromEntry
            rcases taken with ⟨missing, validated⟩ | ⟨impossible, _⟩
            · cases missing
              rw [Field.validate_missing (Bool.and_eq_true_iff.1 reported).2] at validated
              contradiction
            · contradiction
        · next notReported =>
            simp only [Outcome.map_eq_ok_iff, Outcome.mapError_eq_ok_iff] at fromEntry
            obtain ⟨structured, structuredOk, rfl⟩ := fromEntry
            rcases taken with ⟨same, validated⟩ | ⟨impossible, _⟩
            · cases same
              exact .given input (Bool.eq_false_iff.2 notReported) structuredOk validated
            · contradiction

/-- Given what the fields supply, a field has the value that it takes from the entries. -/
theorem fieldValue_collect_eq_ok_iff {recordType : RecordType (Typed Payload)}
    (distinct : recordType.DistinctFields) {entries : Entries Value}
    {suppliedOf : Field (Typed Payload) → Option (Typed Payload)}
    {field : Field (Typed Payload)} (member : field ∈ recordType.fields)
    (fromEntries :
      field.supplyFrom .root (registry.entryCandidates entries) = .ok (suppliedOf field))
    (value : Typed Payload) :
    recordType.fieldValue .root .trusted (Entries.collect Field.name suppliedOf recordType.fields)
        field = .ok value ↔
      registry.Takes field entries value := by
  rw [RecordType.fieldValue_eq_ok_iff, Entries.lookup_collect distinct suppliedOf member,
    Field.checkSupplied_eq_ok_iff, takes_iff_supplyFrom, fromEntries]
  simp

theorem structureInput_eq_ok_iff {recordType : RecordType (Typed Payload)}
    (distinct : recordType.DistinctFields) (entries : Entries Value)
    (record : Record (Typed Payload)) :
    recordType.structureInput .root (registry.entryCandidates entries) = .ok record ↔
      ∃ valueOf : Field (Typed Payload) → Typed Payload,
        (∀ field ∈ recordType.fields, registry.Takes field entries (valueOf field)) ∧
          record = recordType.reading valueOf entries := by
  rw [structureInput_eq]
  simp only [Outcome.bind_eq_ok_iff]
  constructor
  · rintro ⟨supplied, suppliedOk, values, assembled, made⟩
    obtain ⟨suppliedOf, fromEntries, rfl⟩ :=
      (Field.supplyAll_eq_ok_iff _ recordType.fields supplied).1 suppliedOk
    obtain ⟨valueOf, given, _, rfl⟩ :=
      (RecordType.assemble_eq_ok_iff distinct .trusted _ values).1 assembled
    refine ⟨valueOf, ?_, ?_⟩
    · intro field member
      exact (registry.fieldValue_collect_eq_ok_iff distinct member (fromEntries field member)
        (valueOf field)).1 (given field member)
    · exact (Except.ok.inj made).symm
  · rintro ⟨valueOf, taken, rfl⟩
    obtain ⟨suppliedOf, fromEntries⟩ := Outcome.exists_valueOf fun field member => by
      obtain ⟨supplied, fromEntry, _⟩ :=
        (registry.takes_iff_supplyFrom field entries (valueOf field)).1 (taken field member)
      exact ⟨supplied, fromEntry⟩
    refine ⟨_, (Field.supplyAll_eq_ok_iff _ _ _).2 ⟨suppliedOf, fromEntries, rfl⟩, _,
      (RecordType.assemble_eq_ok_iff distinct .trusted _ _).2 ⟨valueOf, ?_, ?_, rfl⟩, rfl⟩
    · intro field member
      exact (registry.fieldValue_collect_eq_ok_iff distinct member (fromEntries field member)
        (valueOf field)).2 (taken field member)
    · intro key member
      exact (RecordType.declares_iff key).2 (Entries.mem_keys_collect member)

theorem structureWith_eq_ok_iff {recordType : RecordType (Typed Payload)}
    (distinct : recordType.DistinctFields) (raw : Value) (record : Record (Typed Payload)) :
    registry.structureWith recordType raw = .ok record ↔
      ∃ entries valueOf, raw = .map entries ∧
        (∀ field ∈ recordType.fields, registry.Takes field entries (valueOf field)) ∧
          record = recordType.reading valueOf entries := by
  cases raw with
  | map entries =>
      rw [structureWith, structureInput_eq_ok_iff registry distinct]
      simp
  | _ => simp [structureWith]

/-! ## Types -/

theorem structureAs_any (raw : Value) : registry.structureAs raw .any = .ok (.raw raw) := by
  cases raw <;> rfl

theorem structureItems_eq_ok_iff (item : TypeExpr) (position : Nat) (items : List Value)
    (values : List (Typed Payload)) :
    Candidate.structureItems item .root position (registry.itemCandidates items) = .ok values ↔
      ∃ valueOf : Value → Typed Payload,
        (∀ raw ∈ items, registry.structureAs raw item = .ok (valueOf raw)) ∧
          values = items.map valueOf := by
  rw [← Outcome.forall₂_ok_iff]
  induction items generalizing position values with
  | nil => cases values <;> simp [itemCandidates, Candidate.structureItems]
  | cons raw rest inductionHypothesis =>
      rw [structureItems_cons, Outcome.bind_eq_ok_iff]
      simp only [Outcome.mapError_eq_ok_iff, Outcome.bind_eq_ok_iff, inductionHypothesis,
        Except.ok.injEq]
      constructor
      · rintro ⟨first, structured, others, restStructured, rfl⟩
        exact .cons structured restStructured
      · intro structured
        cases structured with
        | cons first later => exact ⟨_, first, _, later, rfl⟩

theorem structureEntries_eq_ok_iff (type : TypeExpr) (entries : Entries Value)
    (values : Entries (Typed Payload)) :
    Candidate.structureEntries type .root (registry.entryCandidates entries) = .ok values ↔
      ∃ valueOf : Value → Typed Payload,
        (∀ entry ∈ entries, registry.structureAs entry.2 type = .ok (valueOf entry.2)) ∧
          values = Entries.mapValues valueOf entries := by
  rw [structureEntries_eq]
  exact Outcome.sequence_map_eq_ok_iff
    (fun key raw => Outcome.mapError_eq_ok_iff (StructureError.under key)
      (registry.structureAs raw type)) entries values

theorem structureAs_sequence_array (item : TypeExpr) (items : List Value) :
    registry.structureAs (.array items) (.sequence item) =
      (Candidate.structureItems item .root 0 (registry.itemCandidates items)).map .sequence :=
  rfl

theorem structureAs_set_array (item : TypeExpr) (items : List Value) :
    registry.structureAs (.array items) (.set item) =
      (Candidate.structureItems item .root 0 (registry.itemCandidates items)).map fun structured =>
        .set (Typed.keepDistinct [] structured) :=
  rfl

theorem structureAs_mapping_map (type : TypeExpr) (entries : Entries Value) :
    registry.structureAs (.map entries) (.mapping .str type) =
      (Candidate.structureEntries type .root (registry.entryCandidates entries)).map .mapping :=
  rfl

/-- Only arrays are sequences. -/
theorem structureAs_sequence_of_not_array (item : TypeExpr) {raw : Value}
    (notArray : raw.isArray = false) :
    registry.structureAs raw (.sequence item) =
      .error (.atTop ((TypeExpr.sequence item).mismatch raw)) := by
  cases raw with
  | array items => contradiction
  | _ => rfl

/-- Only arrays are sets. -/
theorem structureAs_set_of_not_array (item : TypeExpr) {raw : Value}
    (notArray : raw.isArray = false) :
    registry.structureAs raw (.set item) =
      .error (.atTop ((TypeExpr.set item).mismatch raw)) := by
  cases raw with
  | array items => contradiction
  | _ => rfl

/-- Only maps are mappings. -/
theorem structureAs_mapping_of_not_map (key type : TypeExpr) {raw : Value}
    (notMap : raw.isMap = false) :
    registry.structureAs raw (.mapping key type) =
      .error (.atTop ((TypeExpr.mapping key type).mismatch raw)) := by
  cases raw with
  | map entries => contradiction
  | _ => rfl

/-- Nothing is a mapping whose keys are not texts. -/
theorem structureAs_mapping_of_ne {key : TypeExpr} (otherKeys : key ≠ .str) (type : TypeExpr)
    (raw : Value) :
    registry.structureAs raw (.mapping key type) =
      .error (.atTop ((TypeExpr.mapping key type).mismatch raw)) := by
  cases raw <;> simp [structureAs, structureAt, TypeExpr.required, TypeExpr.isOptional, otherKeys]

theorem structureAs_sequence_eq_ok_iff (item : TypeExpr) (raw : Value) (value : Typed Payload) :
    registry.structureAs raw (.sequence item) = .ok value ↔
      ∃ items valueOf, raw = .array items ∧
        (∀ part ∈ items, registry.structureAs part item = .ok (valueOf part)) ∧
          value = .sequence (items.map valueOf) := by
  cases raw with
  | array items =>
      simp only [structureAs_sequence_array, Outcome.map_eq_ok_iff, structureItems_eq_ok_iff,
        Value.array.injEq]
      constructor
      · rintro ⟨_, ⟨valueOf, structured, rfl⟩, rfl⟩
        exact ⟨items, valueOf, rfl, structured, rfl⟩
      · rintro ⟨_, valueOf, rfl, structured, rfl⟩
        exact ⟨_, ⟨valueOf, structured, rfl⟩, rfl⟩
  | _ =>
      rw [structureAs_sequence_of_not_array registry item rfl]
      simp

theorem structureAs_set_eq_ok_iff (item : TypeExpr) (raw : Value) (value : Typed Payload) :
    registry.structureAs raw (.set item) = .ok value ↔
      ∃ items valueOf, raw = .array items ∧
        (∀ part ∈ items, registry.structureAs part item = .ok (valueOf part)) ∧
          value = .set (Typed.keepDistinct [] (items.map valueOf)) := by
  cases raw with
  | array items =>
      simp only [structureAs_set_array, Outcome.map_eq_ok_iff, structureItems_eq_ok_iff,
        Value.array.injEq]
      constructor
      · rintro ⟨_, ⟨valueOf, structured, rfl⟩, rfl⟩
        exact ⟨items, valueOf, rfl, structured, rfl⟩
      · rintro ⟨_, valueOf, rfl, structured, rfl⟩
        exact ⟨_, ⟨valueOf, structured, rfl⟩, rfl⟩
  | _ =>
      rw [structureAs_set_of_not_array registry item rfl]
      simp

theorem structureAs_mapping_eq_ok_iff (key type : TypeExpr) (raw : Value)
    (value : Typed Payload) :
    registry.structureAs raw (.mapping key type) = .ok value ↔
      ∃ entries valueOf, key = .str ∧ raw = .map entries ∧
        (∀ entry ∈ entries, registry.structureAs entry.2 type = .ok (valueOf entry.2)) ∧
          value = .mapping (Entries.mapValues valueOf entries) := by
  cases raw with
  | map entries =>
      by_cases textKeys : key = .str
      · subst textKeys
        simp only [structureAs_mapping_map, Outcome.map_eq_ok_iff, structureEntries_eq_ok_iff,
          Value.map.injEq]
        constructor
        · rintro ⟨_, ⟨valueOf, structured, rfl⟩, rfl⟩
          exact ⟨entries, valueOf, trivial, rfl, structured, rfl⟩
        · rintro ⟨_, valueOf, _, rfl, structured, rfl⟩
          exact ⟨_, ⟨valueOf, structured, rfl⟩, rfl⟩
      · simp [structureAs_mapping_of_ne registry textKeys, textKeys]
  | _ =>
      rw [structureAs_mapping_of_not_map registry key type rfl]
      simp

section Mapped

variable {registry} {ι : Type} {type : TypeExpr} {items : List ι} {rawOf : ι → Value}
  {again : ι → Typed Payload}

/-- Where the raw form of each item is read, reading the raw forms yields what each is read as. -/
theorem read_map
    (read : ∀ part ∈ items, registry.structureAs (rawOf part) type = .ok (again part)) :
    ∃ valueOf : Value → Typed Payload,
      (∀ raw ∈ items.map rawOf, registry.structureAs raw type = .ok (valueOf raw)) ∧
        ∀ part ∈ items, valueOf (rawOf part) = again part := by
  have each : ∀ raw ∈ items.map rawOf, ∃ value, registry.structureAs raw type = .ok value :=
    List.forall_mem_map.2 fun part member => ⟨again part, read part member⟩
  obtain ⟨valueOf, computed⟩ := Outcome.exists_valueOf each
  refine ⟨valueOf, computed, fun part member => ?_⟩
  have fromRaw := computed (rawOf part) (List.mem_map_of_mem member)
  rw [read part member, Except.ok.injEq] at fromRaw
  exact fromRaw.symm

theorem structureAs_sequence_map
    (read : ∀ part ∈ items, registry.structureAs (rawOf part) type = .ok (again part)) :
    registry.structureAs (.array (items.map rawOf)) (.sequence type) =
      .ok (.sequence (items.map again)) := by
  obtain ⟨valueOf, computed, same⟩ := read_map read
  refine (structureAs_sequence_eq_ok_iff registry type _ _).2 ⟨_, valueOf, rfl, computed, ?_⟩
  rw [List.map_map]
  exact congrArg Typed.sequence (List.map_congr_left fun part member => (same part member).symm)

theorem structureAs_set_map
    (read : ∀ part ∈ items, registry.structureAs (rawOf part) type = .ok (again part)) :
    registry.structureAs (.array (items.map rawOf)) (.set type) =
      .ok (.set (Typed.keepDistinct [] (items.map again))) := by
  obtain ⟨valueOf, computed, same⟩ := read_map read
  refine (structureAs_set_eq_ok_iff registry type _ _).2 ⟨_, valueOf, rfl, computed, ?_⟩
  have sameItems : items.map again = (items.map rawOf).map valueOf := by
    rw [List.map_map]
    exact List.map_congr_left fun part member => (same part member).symm
  rw [sameItems]

theorem structureAs_mapping_mapValues {entries : Entries ι}
    (read : ∀ entry ∈ entries, registry.structureAs (rawOf entry.2) type = .ok (again entry.2)) :
    registry.structureAs (.map (Entries.mapValues rawOf entries)) (.mapping .str type) =
      .ok (.mapping (Entries.mapValues again entries)) := by
  have values : ∀ value ∈ entries.map Prod.snd,
      registry.structureAs (rawOf value) type = .ok (again value) := by
    rw [List.forall_mem_map]
    exact read
  obtain ⟨valueOf, computed, same⟩ := read_map values
  refine (structureAs_mapping_eq_ok_iff registry .str type _ _).2
    ⟨_, valueOf, rfl, rfl, ?_, ?_⟩
  · rw [Entries.mapValues, List.forall_mem_map]
    exact fun entry member => computed _ (List.mem_map_of_mem (List.mem_map_of_mem member))
  · simp only [Entries.mapValues, List.map_map]
    refine congrArg Typed.mapping (List.map_congr_left fun entry member => ?_)
    exact congrArg (Prod.mk entry.1) (same entry.2 (List.mem_map_of_mem member)).symm

end Mapped

/-- Structuring as a record type is structuring the record of that name. -/
theorem structureAs_record_eq (name : String) (raw : Value) :
    registry.structureAs raw (.record name) =
      (registry.structureRecord name raw).map .record := by
  rw [structureRecord]
  have notOptional : (TypeExpr.record name).isOptional = false := rfl
  cases found : registry.record? name with
  | none =>
      cases raw <;>
        simp only [structureAs, structureAt, notOptional, TypeExpr.required, found] <;> rfl
  | some recordType =>
      cases raw <;>
        simp only [structureAs, structureAt, notOptional, TypeExpr.required, found,
          structureWith] <;> rfl

theorem structureAs_record_eq_ok_iff (name : String) (raw : Value) (value : Typed Payload) :
    registry.structureAs raw (.record name) = .ok value ↔
      ∃ recordType record, registry.record? name = some recordType ∧
        registry.structureWith recordType raw = .ok record ∧ value = .record record := by
  rw [structureAs_record_eq, structureRecord, Outcome.map_eq_ok_iff]
  cases registry.record? name <;> simp [eq_comm]

/-- Structuring a record by name is structuring a value as the type of that name. -/
theorem structureAs_record_iff (name : String) (raw : Value) (record : Record (Typed Payload)) :
    registry.structureAs raw (.record name) = .ok (.record record) ↔
      registry.structureRecord name raw = .ok record := by
  rw [structureAs_record_eq, Outcome.map_eq_ok_iff]
  simp

theorem structureAs_custom_eq (name : String) (raw : Value) :
    registry.structureAs raw (.custom name) = registry.structureCustom name .root raw := by
  cases raw <;> rfl

theorem structureAs_custom_eq_ok_iff (name : String) (raw : Value) (value : Typed Payload) :
    registry.structureAs raw (.custom name) = .ok value ↔
      ∃ hook payload, registry.hook? name = some hook ∧
        hook.structurePayload raw = .ok payload ∧ value = .custom name payload := by
  rw [structureAs_custom_eq, structureCustom]
  cases found : registry.hook? name with
  | none => simp
  | some hook => cases structured : hook.structurePayload raw <;> simp [structured, eq_comm]

end Registry

end Recast
