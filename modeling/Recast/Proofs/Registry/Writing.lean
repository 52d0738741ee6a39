import Recast.Proofs.Entries.Overwriting
import Recast.Proofs.Record.Assembly
import Recast.Registry.Unstructuring

/-!
# What unstructuring writes

Where the parts of a value have untyped forms, so has the value.  A record writes its fields after
the entries that it keeps, as long as these have other keys, and then arranges all by its layout.
Arranging changes no look-up, so reading the entries again finds every field and every kept
entry.
-/

namespace Recast

variable {Payload : Type}

namespace RecordType

variable {α : Type} {recordType : RecordType α}

/-- The kept entries with the written fields after them. -/
def overlay (recordType : RecordType α) (extras : Entries Value) (rawOf : Field α → Value) :
    Entries Value :=
  extras ++ recordType.table rawOf

/-- No entry is named like a declared field. -/
def Undeclared (recordType : RecordType α) (entries : Entries Value) : Prop :=
  ∀ key ∈ Entries.keys entries, recordType.declares key = false

section Overlay

variable {extras : Entries Value}

theorem Undeclared.not_mem (undeclared : recordType.Undeclared extras) {field : Field α}
    (member : field ∈ recordType.fields) :
    field.name ∉ Entries.keys extras := by
  intro present
  have declared := (declares_iff field.name).2 (List.mem_map_of_mem member)
  rw [undeclared field.name present] at declared
  contradiction

theorem nodup_keys_overlay (distinct : recordType.DistinctFields)
    (extrasDistinct : (Entries.keys extras).Nodup) (undeclared : recordType.Undeclared extras)
    (rawOf : Field α → Value) :
    (Entries.keys (recordType.overlay extras rawOf)).Nodup := by
  rw [overlay, Entries.keys_append, keys_table, List.nodup_append]
  refine ⟨extrasDistinct, distinct, ?_⟩
  rintro key keyMember _ fieldMember rfl
  obtain ⟨field, member, rfl⟩ := List.mem_map.1 fieldMember
  exact undeclared.not_mem member keyMember

theorem lookup_overlay_field (distinct : recordType.DistinctFields)
    (undeclared : recordType.Undeclared extras) (rawOf : Field α → Value) {field : Field α}
    (member : field ∈ recordType.fields) :
    (recordType.overlay extras rawOf).lookup field.name = some (rawOf field) := by
  rw [overlay, List.lookup_append,
    (Entries.lookup_eq_none_iff extras field.name).2 (undeclared.not_mem member), Option.none_or,
    lookup_table distinct rawOf member]

/-- What a record keeps is what its overlay holds beside the declared fields. -/
theorem filter_overlay (undeclared : recordType.Undeclared extras) (rawOf : Field α → Value) :
    (recordType.overlay extras rawOf).filter (fun entry => !recordType.declares entry.1) =
      extras := by
  have keptAll : extras.filter (fun entry => !recordType.declares entry.1) = extras := by
    rw [List.filter_eq_self]
    intro entry member
    rw [undeclared entry.1 (Entries.key_mem member)]
    rfl
  have keptNone :
      (recordType.table rawOf).filter (fun entry => !recordType.declares entry.1) = [] := by
    rw [List.filter_eq_nil_iff]
    intro entry member
    obtain ⟨field, fieldMember, rfl⟩ := mem_table.1 member
    simp [(declares_iff field.name).2 (List.mem_map_of_mem fieldMember)]
  rw [overlay, List.filter_append, keptAll, keptNone, List.append_nil]

theorem Undeclared.arrange (undeclared : recordType.Undeclared extras) (layout : List String) :
    recordType.Undeclared (Entries.arrange extras layout) := by
  intro key member
  rw [← Entries.isSome_lookup_iff, Entries.lookup_arrange, Entries.isSome_lookup_iff] at member
  exact undeclared key member

/-- Entries that were written stay in their order when what they keep is written again. -/
theorem arrange_overlay_arrange (distinct : recordType.DistinctFields)
    (extrasDistinct : (Entries.keys extras).Nodup) (undeclared : recordType.Undeclared extras)
    (rawOf : Field α → Value) {layout : List String} (layoutDistinct : layout.Nodup) :
    Entries.arrange (recordType.overlay (Entries.arrange extras layout) rawOf)
        (Entries.keys (Entries.arrange (recordType.overlay extras rawOf) layout)) =
      Entries.arrange (recordType.overlay extras rawOf) layout := by
  apply Entries.arrange_keys_of_lookup
  · exact Entries.nodup_keys_arrange
      (nodup_keys_overlay distinct extrasDistinct undeclared rawOf) layoutDistinct
  · intro key
    rw [Entries.lookup_arrange, overlay, overlay, List.lookup_append, List.lookup_append,
      Entries.lookup_arrange]

end Overlay

end RecordType

variable [BEq Payload]

namespace Field

/-- Whether a field of the value is left out. -/
def strips (field : Field (Typed Payload)) (defaults : DefaultFields) (value : Typed Payload) :
    Bool :=
  defaults == .stripped && field.isDefault value

/-- What is written for a field of the value, given the untyped form of the value. -/
def output? (field : Field (Typed Payload)) (defaults : DefaultFields) (value : Typed Payload)
    (raw : Value) : Option Value :=
  if field.strips defaults value then none else some raw

theorem strips_iff (field : Field (Typed Payload)) (defaults : DefaultFields)
    (value : Typed Payload) :
    field.strips defaults value = true ↔
      defaults = .stripped ∧ field.isDefault value = true := by
  rw [strips, Bool.and_eq_true]
  cases defaults <;> simp

theorem output?_of_strips {field : Field (Typed Payload)} {defaults : DefaultFields}
    {value : Typed Payload} (strips : field.strips defaults value = true) (raw : Value) :
    field.output? defaults value raw = none := by
  rw [output?, if_pos strips]

theorem output?_of_keeps {field : Field (Typed Payload)} {defaults : DefaultFields}
    {value : Typed Payload} (keeps : field.strips defaults value = false) (raw : Value) :
    field.output? defaults value raw = some raw := by
  rw [output?, keeps, if_neg Bool.false_ne_true]

theorem strips_written (field : Field (Typed Payload)) (value : Typed Payload) :
    field.strips .written value = false :=
  rfl

end Field

theorem Record.writeFields_cons {values : Entries (Typed Payload)}
    {outputs : Entries (Except UnstructureError Value)} (defaults : DefaultFields)
    {field : Field (Typed Payload)} {value : Typed Payload}
    {outcome : Except UnstructureError Value} (held : values.lookup field.name = some value)
    (computed : outputs.lookup field.name = some outcome) (rest : List (Field (Typed Payload)))
    (written : Entries Value) :
    writeFields values defaults outputs (field :: rest) written =
      if field.strips defaults value then
        writeFields values defaults outputs rest (Entries.erase written field.name)
      else
        outcome >>= fun output =>
          writeFields values defaults outputs rest
            (Entries.insert written field.name output) := by
  rw [writeFields, held, computed, Option.getD_some, Option.getD_some]
  simp only [← Field.strips_iff]

/-- Fields are written one after another, on condition that the values of those that are not left
out have untyped forms. -/
theorem Record.writeFields_eq_ok_iff {values : Entries (Typed Payload)}
    {outputs : Entries (Except UnstructureError Value)} {defaults : DefaultFields}
    {fields : List (Field (Typed Payload))} {valueOf : Field (Typed Payload) → Typed Payload}
    {outcome : Field (Typed Payload) → Except UnstructureError Value}
    (held : ∀ field ∈ fields, values.lookup field.name = some (valueOf field))
    (computed : ∀ field ∈ fields, outputs.lookup field.name = some (outcome field))
    (written result : Entries Value) :
    writeFields values defaults outputs fields written = .ok result ↔
      ∃ rawOf : Field (Typed Payload) → Value,
        (∀ field ∈ fields, field.strips defaults (valueOf field) = false →
          outcome field = .ok (rawOf field)) ∧
        result = Entries.overwrite Field.name
          (fun field => field.output? defaults (valueOf field) (rawOf field)) fields written := by
  constructor
  · intro writes
    refine ⟨fun field => Outcome.value (outcome field), ?_⟩
    induction fields generalizing written with
    | nil =>
        cases writes
        exact ⟨fun _ member => absurd member List.not_mem_nil, rfl⟩
    | cons field rest inductionHypothesis =>
        rw [List.forall_mem_cons] at held computed
        rw [writeFields_cons defaults held.1 computed.1] at writes
        rw [List.forall_mem_cons]
        cases strips : field.strips defaults (valueOf field) with
        | true =>
            rw [if_pos strips] at writes
            obtain ⟨restComputed, rfl⟩ := inductionHypothesis held.2 computed.2 _ writes
            refine ⟨⟨nofun, restComputed⟩, ?_⟩
            simp only [Entries.overwrite_cons, Field.output?_of_strips strips]
        | false =>
            rw [if_neg (by simp [strips]), Outcome.bind_eq_ok_iff] at writes
            obtain ⟨raw, fieldComputed, restWrites⟩ := writes
            obtain ⟨restComputed, rfl⟩ := inductionHypothesis held.2 computed.2 _ restWrites
            refine ⟨⟨fun _ => by simp only [fieldComputed, Outcome.value_ok], restComputed⟩, ?_⟩
            simp only [Entries.overwrite_cons, Field.output?_of_keeps strips, fieldComputed,
              Outcome.value_ok]
  · rintro ⟨rawOf, each, rfl⟩
    induction fields generalizing written with
    | nil => rfl
    | cons field rest inductionHypothesis =>
        rw [List.forall_mem_cons] at held computed each
        rw [writeFields_cons defaults held.1 computed.1]
        cases strips : field.strips defaults (valueOf field) with
        | true =>
            rw [if_pos rfl, inductionHypothesis held.2 computed.2 _ each.2]
            simp only [Entries.overwrite_cons, Field.output?_of_strips strips]
        | false =>
            rw [if_neg Bool.false_ne_true, each.1 strips]
            refine (inductionHypothesis held.2 computed.2 _ each.2).trans ?_
            simp only [Entries.overwrite_cons, Field.output?_of_keeps strips]

namespace Registry

/-- What a value is written as, if it can be written. -/
def rawOf (registry : Registry Payload) (value : Typed Payload) : Value :=
  Outcome.value (registry.unstructure .written value)

theorem rawOf_eq {registry : Registry Payload} {value : Typed Payload} {raw : Value}
    (written : registry.unstructure .written value = .ok raw) :
    registry.rawOf value = raw := by
  rw [rawOf, written, Outcome.value_ok]

variable {registry : Registry Payload} {defaults : DefaultFields} {rawOf : Typed Payload → Value}

theorem unstructureItems_eq_ok {items : List (Typed Payload)}
    (computed : ∀ item ∈ items, registry.unstructure defaults item = .ok (rawOf item)) :
    registry.unstructureItems defaults items = .ok (items.map rawOf) := by
  induction items with
  | nil => rfl
  | cons item rest inductionHypothesis =>
      rw [List.forall_mem_cons] at computed
      rw [unstructureItems, computed.1, inductionHypothesis computed.2]
      rfl

theorem unstructure_sequence_eq_ok {items : List (Typed Payload)}
    (computed : ∀ item ∈ items, registry.unstructure defaults item = .ok (rawOf item)) :
    registry.unstructure defaults (.sequence items) = .ok (.array (items.map rawOf)) := by
  rw [unstructure, unstructureItems_eq_ok computed]
  rfl

theorem unstructure_set_eq_ok {items : List (Typed Payload)}
    (computed : ∀ item ∈ items, registry.unstructure defaults item = .ok (rawOf item)) :
    registry.unstructure defaults (.set items) = .ok (.array (items.map rawOf)) := by
  rw [unstructure, unstructureItems_eq_ok computed]
  rfl

theorem unstructure_mapping_eq_ok {entries : Entries (Typed Payload)}
    (computed : ∀ entry ∈ entries, registry.unstructure defaults entry.2 = .ok (rawOf entry.2)) :
    registry.unstructure defaults (.mapping entries) =
      .ok (.map (Entries.mapValues rawOf entries)) := by
  have outcomes : Entries.mapValues (registry.unstructure defaults) entries =
      Entries.mapValues .ok (Entries.mapValues rawOf entries) := by
    rw [Entries.mapValues, Entries.mapValues, Entries.mapValues, List.map_map]
    exact List.map_congr_left fun entry member => by rw [computed entry member]; rfl
  rw [unstructure, unstructureEntries_eq_mapValues, outcomes,
    (Entries.sequence_eq_ok_iff _ _).2 rfl]
  rfl

/-- A record writes its fields over what it keeps, and arranges all by its layout. -/
theorem unstructure_record_eq_ok_iff {recordType : RecordType (Typed Payload)}
    (distinct : recordType.DistinctFields) (valueOf : Field (Typed Payload) → Typed Payload)
    {extras? : Option (Entries Value)} (extrasDistinct : (Entries.keys (extras?.getD [])).Nodup)
    {layout : List String} (layoutDistinct : layout.Nodup) (raw : Value) :
    registry.unstructure defaults
        (.record ⟨recordType, recordType.table valueOf, extras?, layout⟩) = .ok raw ↔
      ∃ rawOf : Field (Typed Payload) → Value,
        (∀ field ∈ recordType.fields, field.strips defaults (valueOf field) = false →
          registry.unstructure defaults (valueOf field) = .ok (rawOf field)) ∧
        raw = .map (Entries.arrange (Entries.overwrite Field.name
          (fun field => field.output? defaults (valueOf field) (rawOf field)) recordType.fields
          (extras?.getD [])) layout) := by
  have held : ∀ field ∈ recordType.fields,
      (recordType.table valueOf).lookup field.name = some (valueOf field) :=
    fun field member => RecordType.lookup_table distinct valueOf member
  have outcomes : ∀ field ∈ recordType.fields,
      (registry.unstructureEntries defaults (recordType.table valueOf)).lookup field.name =
        some (registry.unstructure defaults (valueOf field)) := by
    intro field member
    rw [unstructureEntries_eq_mapValues, Entries.lookup_mapValues, held field member,
      Option.map_some]
  rw [unstructure, Outcome.bind_eq_ok_iff]
  simp only [Record.writeFields_eq_ok_iff held outcomes, Except.ok.injEq]
  constructor
  · rintro ⟨_, ⟨rawOf, computed, rfl⟩, rfl⟩
    rw [Entries.reorder_eq_arrange (Entries.nodup_keys_overwrite extrasDistinct) layoutDistinct]
    exact ⟨rawOf, computed, rfl⟩
  · rintro ⟨rawOf, computed, rfl⟩
    rw [← Entries.reorder_eq_arrange (Entries.nodup_keys_overwrite extrasDistinct) layoutDistinct]
    exact ⟨_, ⟨rawOf, computed, rfl⟩, rfl⟩

theorem unstructureRecord_eq_ok_iff {record : Record (Typed Payload)}
    (distinct : record.recordType.DistinctFields)
    {valueOf : Field (Typed Payload) → Typed Payload}
    (tabulated : record.values = record.recordType.table valueOf)
    (extrasDistinct : (Entries.keys record.extras).Nodup) (layoutDistinct : record.layout.Nodup)
    (raw : Value) :
    registry.unstructureRecord defaults record = .ok raw ↔
      ∃ rawOf : Field (Typed Payload) → Value,
        (∀ field ∈ record.recordType.fields, field.strips defaults (valueOf field) = false →
          registry.unstructure defaults (valueOf field) = .ok (rawOf field)) ∧
        raw = .map (Entries.arrange (Entries.overwrite Field.name
          (fun field => field.output? defaults (valueOf field) (rawOf field))
          record.recordType.fields record.extras) record.layout) := by
  obtain ⟨recordType, values, extras?, layout⟩ := record
  change values = recordType.table valueOf at tabulated
  subst tabulated
  exact unstructure_record_eq_ok_iff distinct valueOf extrasDistinct layoutDistinct raw

/-- A record writes what it keeps and then its fields, arranged by its layout. -/
theorem unstructure_record_eq_ok {recordType : RecordType (Typed Payload)}
    (distinct : recordType.DistinctFields) {valueOf : Field (Typed Payload) → Typed Payload}
    {rawOf : Field (Typed Payload) → Value}
    (computed : ∀ field ∈ recordType.fields,
      registry.unstructure .written (valueOf field) = .ok (rawOf field))
    {extras? : Option (Entries Value)} (extrasDistinct : (Entries.keys (extras?.getD [])).Nodup)
    (undeclared : recordType.Undeclared (extras?.getD [])) {layout : List String}
    (layoutDistinct : layout.Nodup) :
    registry.unstructure .written
        (.record ⟨recordType, recordType.table valueOf, extras?, layout⟩) =
      .ok (.map (Entries.arrange (recordType.overlay (extras?.getD []) rawOf) layout)) := by
  have appended : Entries.extend (extras?.getD []) (recordType.table rawOf) =
      recordType.overlay (extras?.getD []) rawOf := by
    apply Entries.extend_eq_append
    · rw [RecordType.keys_table]
      exact distinct
    · intro key member
      rw [RecordType.keys_table] at member
      obtain ⟨field, fieldMember, rfl⟩ := List.mem_map.1 member
      exact undeclared.not_mem fieldMember
  refine (unstructure_record_eq_ok_iff distinct valueOf extrasDistinct layoutDistinct _).2
    ⟨rawOf, fun field member _ => computed field member, ?_⟩
  rw [← appended, RecordType.table, ← Entries.overwrite_some]
  rfl

end Registry

end Recast
