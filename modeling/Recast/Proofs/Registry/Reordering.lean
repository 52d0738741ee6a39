import Recast.Proofs.Registry.Congruence
import Recast.Proofs.Registry.Failing
import Recast.Proofs.RoundTrip.Raw
import Recast.Proofs.RoundTrip.Stripping
import Recast.Proofs.Value.Reordering

/-!
# Structuring takes no notice of the order of keys

A value and the same value with the entries of its maps in another order are structured both or
neither.  Records fail alike too: their faults are looked for field by field.  A mapping reports
the first of its entries that fails, and a hook may word its reason as it likes, so the errors are
the same where neither is met with.
-/

namespace Recast

variable {Payload : Type}

/-- The hook accepts a value in one order of its keys if it does so in another. -/
def Hook.IgnoresOrder (hook : Hook Payload) : Prop :=
  ∀ raw other : Value, raw.WellFormed → other.WellFormed → raw.SameButOrder other →
    ((∃ payload, hook.structurePayload raw = .ok payload) ↔
      ∃ payload, hook.structurePayload other = .ok payload)

/-- Faults of values of the type do not depend on the order of keys by themselves. -/
def TypeExpr.isOrderFree : TypeExpr → Bool
  | .mapping _ _ => false
  | .custom _ => false
  | _ => true

namespace Registry

variable [BEq Payload]

/-- No mapping and no custom type is met with where the value is read as the type. -/
def OrderFree (registry : Registry Payload) (type : TypeExpr) (raw : Value) : Prop :=
  registry.AtPlaces (fun inner _ => inner.isOrderFree = true) type raw

/-- As the type, both values are structured or neither; and where order does not matter to faults,
they fail with the same error. -/
structure Alike (registry : Registry Payload) (type : TypeExpr) (raw other : Value) : Prop where
  succeeds : (∃ value, registry.structureAs raw type = .ok value) ↔
    ∃ value, registry.structureAs other type = .ok value
  fails : registry.OrderFree type raw → ∀ error,
    registry.structureAs raw type = .error error ↔ registry.structureAs other type = .error error

variable {alphabet : Text.Alphabet} {registry : Registry Payload} {type item : TypeExpr}
  {raw other : Value}

theorem Alike.of_eq (same : registry.structureAs raw type = registry.structureAs other type) :
    registry.Alike type raw other := by
  refine ⟨?_, fun _ error => ?_⟩ <;> rw [same]

/-! ## What validators see -/

/-- What is there and not empty passes every validator. -/
theorem Structures.validate_eq_ok {value : Typed Payload}
    (structures : registry.Structures type raw value) (filled : raw.IsFilled)
    (field : Field (Typed Payload)) :
    field.validate value = .ok () := by
  obtain ⟨present, notEmpty⟩ := filled
  have notMissing := structures.isMissing_eq_false present
  have someElement : value.size? ≠ some 0 := fun none =>
    notEmpty (structures.isEmpty_of_size? none)
  rw [Field.validate]
  cases field.validator? with
  | none => rfl
  | some validator => simp [Validator.check, notMissing, someElement]

/-- A validator sees no difference between what two values are structured as that are the same but
for order. -/
theorem validate_eq_of_sameButOrder (coherent : registry.Coherent) (same : raw.SameButOrder other)
    {value otherValue : Typed Payload} (structured : registry.structureAs raw type = .ok value)
    (otherStructured : registry.structureAs other type = .ok otherValue)
    (field : Field (Typed Payload)) :
    field.validate value = field.validate otherValue := by
  rcases same.eq_or_isFilled with rfl | ⟨filled, otherFilled⟩
  · rw [structured] at otherStructured
    cases otherStructured
    rfl
  · rw [(structures_of_ok coherent structured).validate_eq_ok filled,
      (structures_of_ok coherent otherStructured).validate_eq_ok otherFilled]

/-! ## Items and entries -/

theorem exists_structureItems_iff (item : TypeExpr) (position : Nat) (items : List Value) :
    (∃ values, Candidate.structureItems item .root position (registry.itemCandidates items) =
        .ok values) ↔
      ∀ part ∈ items, ∃ value, registry.structureAs part item = .ok value := by
  simp only [structureItems_eq_ok_iff]
  constructor
  · rintro ⟨_, valueOf, each, _⟩ part member
    exact ⟨valueOf part, each part member⟩
  · intro each
    obtain ⟨valueOf, computed⟩ := Outcome.exists_valueOf each
    exact ⟨_, valueOf, computed, rfl⟩

theorem exists_structureEntries_iff (type : TypeExpr) (entries : Entries Value) :
    (∃ values,
        Candidate.structureEntries type .root (registry.entryCandidates entries) = .ok values) ↔
      ∀ entry ∈ entries, ∃ value, registry.structureAs entry.2 type = .ok value := by
  simp only [structureEntries_eq_ok_iff]
  constructor
  · rintro ⟨_, valueOf, each, _⟩ entry member
    exact ⟨valueOf entry.2, each entry member⟩
  · intro each
    have eachValue : ∀ part ∈ entries.map Prod.snd,
        ∃ value, registry.structureAs part type = .ok value := List.forall_mem_map.2 each
    obtain ⟨valueOf, computed⟩ := Outcome.exists_valueOf eachValue
    exact ⟨_, valueOf, List.forall_mem_map.1 computed, rfl⟩

variable {items others : List Value}

theorem exists_structureItems_iff_of_alike
    (alike : List.Forall₂ (registry.Alike item) items others) :
    (∃ values,
        Candidate.structureItems item .root 0 (registry.itemCandidates items) = .ok values) ↔
      ∃ values,
        Candidate.structureItems item .root 0 (registry.itemCandidates others) = .ok values := by
  rw [exists_structureItems_iff, exists_structureItems_iff]
  exact Entries.forall_mem_iff_of_forall₂ (alike.imp fun _ _ both => both.succeeds)

theorem structureItems_eq_error_iff_of_alike
    (alike : List.Forall₂ (registry.Alike item) items others)
    (orderFree : ∀ part ∈ items, registry.OrderFree item part) (error : StructureError) :
    Candidate.structureItems item .root 0 (registry.itemCandidates items) = .error error ↔
      Candidate.structureItems item .root 0 (registry.itemCandidates others) = .error error := by
  rw [structureItems_eq_error_iff, structureItems_eq_error_iff]
  refine Outcome.firstFailure_iff_of_forall₂ ((Entries.forall₂_mem alike).imp ?_)
  rintro part otherPart ⟨member, _, both⟩
  refine ⟨both.succeeds, fun position => exists_congr fun inner => and_congr_left fun _ => ?_⟩
  exact both.fails (orderFree part member) inner

theorem Alike.sequence (alike : List.Forall₂ (registry.Alike item) items others) :
    registry.Alike (.sequence item) (.array items) (.array others) where
  succeeds := by
    simp only [structureAs_sequence_array, Outcome.exists_map_eq_ok_iff]
    exact exists_structureItems_iff_of_alike alike
  fails orderFree error := by
    simp only [structureAs_sequence_array, Outcome.map_eq_error_iff]
    exact structureItems_eq_error_iff_of_alike alike (fun part member => orderFree.item member)
      error

theorem Alike.set (alike : List.Forall₂ (registry.Alike item) items others) :
    registry.Alike (.set item) (.array items) (.array others) where
  succeeds := by
    simp only [structureAs_set_array, Outcome.exists_map_eq_ok_iff]
    exact exists_structureItems_iff_of_alike alike
  fails orderFree error := by
    simp only [structureAs_set_array, Outcome.map_eq_error_iff]
    exact structureItems_eq_error_iff_of_alike alike
      (fun part member => orderFree.element member) error

/-- The error of a mapping depends on the order of its entries, its success does not. -/
theorem Alike.mapping {entries others : Entries Value} (distinct : (Entries.keys entries).Nodup)
    (alike : Entries.Agree (registry.Alike type) entries others) :
    registry.Alike (.mapping .str type) (.map entries) (.map others) where
  succeeds := by
    simp only [structureAs_mapping_map, Outcome.exists_map_eq_ok_iff, exists_structureEntries_iff]
    have succeeds := alike.imp fun _ _ both => both.succeeds
    exact succeeds.forall_mem_iff distinct
  fails orderFree := by
    have impossible := orderFree.here
    contradiction

/-! ## Fields -/

section Fields

variable {recordType : RecordType (Typed Payload)} {field : Field (Typed Payload)}
  {entries : Entries Value}

variable {others : Entries Value}

/-- The field is read from both entries or from neither, and as the same type it fails alike. -/
structure FieldAlike (registry : Registry Payload) (recordType : RecordType (Typed Payload))
    (entries others : Entries Value) (field : Field (Typed Payload)) : Prop where
  supplies : registry.Supplies entries field ↔ registry.Supplies others field
  misfits : (∀ raw, field.input? entries = some raw → registry.OrderFree field.type raw) →
    ∀ error,
      (∃ raw inner, field.input? entries = some raw ∧ field.reportsNull raw = false ∧
          registry.structureAs raw field.type = .error inner ∧ inner.under field.name = error) ↔
        ∃ raw inner, field.input? others = some raw ∧ field.reportsNull raw = false ∧
          registry.structureAs raw field.type = .error inner ∧ inner.under field.name = error
  takes : (∃ value, registry.Takes field entries value) ↔
    ∃ value, registry.Takes field others value
  refuses : ∀ error, registry.Refuses recordType entries field error ↔
    registry.Refuses recordType others field error

theorem FieldAlike.of_no_input (absent : field.input? entries = none)
    (otherAbsent : field.input? others = none) :
    registry.FieldAlike recordType entries others field where
  supplies := by simp only [Supplies, absent, otherAbsent]
  misfits := by simp only [absent, otherAbsent, implies_true]
  takes := by
    rw [exists_takes_iff_of_no_input absent, exists_takes_iff_of_no_input otherAbsent]
  refuses error := by
    rw [refuses_iff_of_no_input absent, refuses_iff_of_no_input otherAbsent]

theorem FieldAlike.of_input (coherent : registry.Coherent) (same : raw.SameButOrder other)
    (input : field.input? entries = some raw) (otherInput : field.input? others = some other)
    (alike : registry.Alike field.type raw other) :
    registry.FieldAlike recordType entries others field := by
  have sameReport : field.reportsNull raw = field.reportsNull other := by
    rw [Field.reportsNull, Field.reportsNull, same.isNull_eq]
  have sameVerdict : ∀ verdict,
      (∃ value, registry.structureAs raw field.type = .ok value ∧
          field.validate value = verdict) ↔
        ∃ value, registry.structureAs other field.type = .ok value ∧
          field.validate value = verdict := by
    intro verdict
    constructor
    · rintro ⟨value, structured, rfl⟩
      obtain ⟨otherValue, otherStructured⟩ := alike.succeeds.1 ⟨value, structured⟩
      exact ⟨otherValue, otherStructured,
        (validate_eq_of_sameButOrder coherent same structured otherStructured field).symm⟩
    · rintro ⟨otherValue, otherStructured, rfl⟩
      obtain ⟨value, structured⟩ := alike.succeeds.2 ⟨otherValue, otherStructured⟩
      exact ⟨value, structured,
        validate_eq_of_sameButOrder coherent same structured otherStructured field⟩
  refine ⟨?_, ?_, ?_, fun error => ?_⟩
  · simp only [Supplies, input, otherInput, Option.some.injEq, forall_eq', sameReport,
      alike.succeeds]
  · intro orderFree error
    simp only [input, otherInput, Option.some.injEq, exists_and_left, exists_eq_left', sameReport,
      alike.fails (orderFree raw input)]
  · rw [exists_takes_iff_of_input input, exists_takes_iff_of_input otherInput, sameReport,
      sameVerdict]
  · rw [refuses_iff_of_input input, refuses_iff_of_input otherInput, sameReport]
    simp only [sameVerdict]

/-! ## Records -/

theorem exists_structureInput_iff (distinct : recordType.DistinctFields) :
    (∃ record, recordType.structureInput .root (registry.entryCandidates entries) = .ok record) ↔
      ∀ field ∈ recordType.fields, ∃ value, registry.Takes field entries value := by
  simp only [structureInput_eq_ok_iff registry distinct]
  constructor
  · rintro ⟨_, valueOf, taken, _⟩ field member
    exact ⟨valueOf field, taken field member⟩
  · intro each
    choose! valueOf taken using each
    exact ⟨_, valueOf, taken, rfl⟩

theorem Alike.record {name : String} (registered : registry.record? name = some recordType)
    (distinct : recordType.DistinctFields)
    (alike : ∀ field ∈ recordType.fields, registry.FieldAlike recordType entries others field) :
    registry.Alike (.record name) (.map entries) (.map others) where
  succeeds := by
    simp only [structureAs_record_eq, Outcome.exists_map_eq_ok_iff, structureRecord, registered,
      structureWith, exists_structureInput_iff distinct]
    exact forall₂_congr fun field member => (alike field member).takes
  fails orderFree error := by
    simp only [structureAs_record_eq, Outcome.map_eq_error_iff, structureRecord, registered,
      structureWith, structureInput_eq_error_iff registry distinct]
    have inputOrderFree : ∀ field ∈ recordType.fields, ∀ raw, field.input? entries = some raw →
        registry.OrderFree field.type raw := fun field member raw input =>
      orderFree.field registered member (lookup_of_input? input)
    refine or_congr (Outcome.firstFailure_congr ?_ ?_)
      (and_congr ?_ (Outcome.firstFailure_congr ?_ ?_))
    · exact fun field member => (alike field member).supplies
    · exact fun _ field member =>
        (alike field member).misfits (inputOrderFree field member) error
    · exact forall₂_congr fun field member => (alike field member).supplies
    · exact fun field member => (alike field member).takes
    · exact fun _ field member => (alike field member).refuses error

end Fields

/-! ## Values of each type -/

theorem exists_structureAs_custom_iff (name : String) (raw : Value) :
    (∃ value, registry.structureAs raw (.custom name) = .ok value) ↔
      ∃ hook, registry.hook? name = some hook ∧
        ∃ payload, hook.structurePayload raw = .ok payload := by
  simp only [structureAs_custom_eq_ok_iff]
  constructor
  · rintro ⟨_, hook, payload, found, structured, _⟩
    exact ⟨hook, found, payload, structured⟩
  · rintro ⟨hook, found, payload, structured⟩
    exact ⟨_, hook, payload, found, structured, rfl⟩

theorem forall₂_alike (wellFormed : (Value.array items).WellFormed)
    (otherWellFormed : (Value.array others).WellFormed)
    (each : List.Forall₂ Value.SameButOrder items others)
    (alike : ∀ part ∈ items, ∀ (type : TypeExpr) {other : Value}, part.WellFormed →
      other.WellFormed → part.SameButOrder other → registry.Alike type part other) :
    List.Forall₂ (registry.Alike item) items others := by
  rw [Value.wellFormed_array_iff] at wellFormed otherWellFormed
  refine (Entries.forall₂_mem each).imp ?_
  rintro part other ⟨member, otherMember, same⟩
  exact alike part member item (wellFormed part member) (otherWellFormed other otherMember) same

theorem agree_alike {entries others : Entries Value} (wellFormed : (Value.map entries).WellFormed)
    (otherWellFormed : (Value.map others).WellFormed)
    (agree : Entries.Agree Value.SameButOrder entries others)
    (alike : ∀ part ∈ (Value.map entries).parts, ∀ (type : TypeExpr) {other : Value},
      part.WellFormed → other.WellFormed → part.SameButOrder other →
        registry.Alike type part other) :
    Entries.Agree (fun part other => part.SameButOrder other ∧
      ∀ type, registry.Alike type part other) entries others := by
  obtain ⟨_, eachWellFormed⟩ := (Value.wellFormed_map_iff entries).1 wellFormed
  obtain ⟨_, othersWellFormed⟩ := (Value.wellFormed_map_iff others).1 otherWellFormed
  refine ⟨agree.1, fun entry member => ?_⟩
  obtain ⟨other, found, same⟩ := agree.2 entry member
  exact ⟨other, found, same, fun type => alike entry.2 (Value.mem_parts_map member) type
    (eachWellFormed entry member) (othersWellFormed _ (Entries.mem_of_lookup found)) same⟩

/-- Values that are the same but for order are structured alike. -/
theorem alike_of_sameButOrder (coherent : registry.Coherent)
    (hooks : ∀ name hook, registry.hook? name = some hook → hook.IgnoresOrder)
    (wellFormed : raw.WellFormed) (otherWellFormed : other.WellFormed)
    (same : raw.SameButOrder other) :
    registry.Alike type raw other := by
  induction type, raw using TypeExpr.inductionWithParts Value.partsInduction generalizing other with
  | optional inner raw inductionHypothesis =>
      cases present : raw.isNull with
      | true =>
          have otherNull := same.isNull_eq ▸ present
          cases raw <;> try contradiction
          cases other <;> try contradiction
          exact .of_eq rfl
      | false =>
          have otherPresent := same.isNull_eq ▸ present
          obtain ⟨succeeds, fails⟩ := inductionHypothesis wellFormed otherWellFormed same
          constructor
          · rw [structureAs_optional registry present, structureAs_optional registry otherPresent]
            exact succeeds
          · rw [structureAs_optional registry present, structureAs_optional registry otherPresent]
            exact fun orderFree => fails (orderFree.optional present)
  | scalar kind raw =>
      rcases same.cases with rfl | ⟨_, _, rfl, rfl, _⟩ | ⟨_, _, rfl, rfl, _⟩
      · exact .of_eq rfl
      · exact .of_eq (by cases kind <;> rfl)
      · exact .of_eq (by cases kind <;> rfl)
  | any raw => constructor <;> simp [structureAs_any]
  | sequence item raw inductionHypothesis =>
      rcases same.cases with rfl | ⟨items, others, rfl, rfl, each⟩ | ⟨_, _, rfl, rfl, _⟩
      · exact .of_eq rfl
      · exact .sequence (forall₂_alike wellFormed otherWellFormed each inductionHypothesis)
      · exact .of_eq rfl
  | set item raw inductionHypothesis =>
      rcases same.cases with rfl | ⟨items, others, rfl, rfl, each⟩ | ⟨_, _, rfl, rfl, _⟩
      · exact .of_eq rfl
      · exact .set (forall₂_alike wellFormed otherWellFormed each inductionHypothesis)
      · exact .of_eq rfl
  | mapping key type raw inductionHypothesis =>
      by_cases textKeys : key = .str
      · subst textKeys
        rcases same.cases with rfl | ⟨_, _, rfl, rfl, _⟩ | ⟨entries, others, rfl, rfl, agree⟩
        · exact .of_eq rfl
        · exact .of_eq rfl
        · have distinct := ((Value.wellFormed_map_iff entries).1 wellFormed).1
          have alike := agree_alike wellFormed otherWellFormed agree inductionHypothesis
          exact .mapping distinct (alike.imp fun _ _ both => both.2 type)
      · refine ⟨?_, fun orderFree => absurd orderFree.here Bool.false_ne_true⟩
        rw [structureAs_mapping_of_ne registry textKeys,
          structureAs_mapping_of_ne registry textKeys]
        simp
  | record name raw inductionHypothesis =>
      cases registered : registry.record? name with
      | none =>
          apply Alike.of_eq
          rw [structureAs_record_eq, structureAs_record_eq, structureRecord, structureRecord,
            registered]
      | some recordType =>
          rcases same.cases with rfl | ⟨_, _, rfl, rfl, _⟩ | ⟨entries, others, rfl, rfl, agree⟩
          · exact .of_eq rfl
          · apply Alike.of_eq
            rw [structureAs_record_eq, structureAs_record_eq, structureRecord, structureRecord,
              registered]
            rfl
          · have distinct := ((Value.wellFormed_map_iff entries).1 wellFormed).1
            have alike := agree_alike wellFormed otherWellFormed agree inductionHypothesis
            refine .record registered (coherent.soundIn registered).distinct fun field member => ?_
            rcases field.input?_cases alike distinct fun _ _ both => both.1.isNull_eq with
              ⟨absent, otherAbsent⟩ | ⟨_, _, input, otherInput, samePart, alikePart⟩
            · exact .of_no_input absent otherAbsent
            · exact .of_input coherent samePart input otherInput (alikePart field.type)
  | custom name raw =>
      refine ⟨?_, fun orderFree => absurd orderFree.here Bool.false_ne_true⟩
      rw [exists_structureAs_custom_iff, exists_structureAs_custom_iff]
      exact exists_congr fun hook => and_congr_right fun found =>
        hooks name hook found raw other wellFormed otherWellFormed same

/-- Structuring respects equality and takes no notice of the order of keys.  Equal values are
structured as equal values, if they both are and if every default that fills a gap equals itself.
Values that differ only in the order of keys are structured both or neither, with the same error
where no mapping and no custom type is met with. -/
theorem structuring_respects_equality [PartialEquivBEq Payload] (built : registry.Built alphabet)
    (hooks : ∀ name hook, registry.hook? name = some hook →
      hook.RespectsEquality ∧ hook.IgnoresOrder)
    (type : TypeExpr) {raw other : Value} (wellFormed : raw.WellFormed)
    (otherWellFormed : other.WellFormed) :
    ((raw == other) = true → registry.FillsGaps type raw → ∀ value otherValue,
        registry.structureAs raw type = .ok value →
        registry.structureAs other type = .ok otherValue → (value == otherValue) = true) ∧
      (raw.SameButOrder other →
        ((∃ value, registry.structureAs raw type = .ok value) ↔
            ∃ value, registry.structureAs other type = .ok value) ∧
          (registry.OrderFree type raw → ∀ error,
            registry.structureAs raw type = .error error ↔
              registry.structureAs other type = .error error)) := by
  have coherent := built.coherent
  constructor
  · intro same gaps value otherValue structured otherStructured
    have respect := fun name hook found => (hooks name hook found).1
    exact (structures_of_ok coherent structured).equal_of_equal coherent respect otherStructured
      wellFormed otherWellFormed same gaps
  · intro same
    have ignore := fun name hook found => (hooks name hook found).2
    obtain ⟨succeeds, fails⟩ :=
      alike_of_sameButOrder coherent ignore wellFormed otherWellFormed same
    exact ⟨succeeds, fails⟩

end Registry

/-! ## Notes in another order -/

namespace Sample

/-- The note with its keys in another order and its weight as a floating-point number. -/
def otherNoteInput : Value :=
  .map [("title", .string "Milk"), ("weight", .float ⟨0x4000000000000000⟩), ("colour", .null)]

/-- A note whose weight is a text. -/
def heavyNoteInput : Value :=
  .map [("weight", .string "heavy"), ("title", .string "Coal")]

def otherHeavyNoteInput : Value :=
  .map [("title", .string "Coal"), ("weight", .string "heavy")]

theorem fillsGaps_noteInput : notes.FillsGaps (.record "Note") noteInput := by
  refine .of_record (show notes.record? "Note" = some noteType from rfl) ?_ ?_
  · intro recordType registered field member _ default declared
    cases registered
    simp only [noteType, List.mem_cons, List.not_mem_nil, or_false] at member
    rcases member with rfl | rfl <;> contradiction
  · intro field member part found
    simp only [noteType, List.mem_cons, List.not_mem_nil, or_false] at member
    rcases member with rfl | rfl <;> exact .of_scalar trivial

theorem orderFree_heavyNoteInput : notes.OrderFree (.record "Note") heavyNoteInput := by
  refine .of_record (show notes.record? "Note" = some noteType from rfl) rfl ?_
  intro field member part found
  simp only [noteType, List.mem_cons, List.not_mem_nil, or_false] at member
  rcases member with rfl | rfl <;> exact .of_scalar rfl

/-- Both notes are read, as equal records.  The heavy note is refused for its weight, whatever
comes first in it. -/
theorem structuring_notes :
    (∃ value otherValue, notes.structureAs noteInput (.record "Note") = .ok value ∧
        notes.structureAs otherNoteInput (.record "Note") = .ok otherValue ∧
        (value == otherValue) = true) ∧
      ∃ error, notes.structureAs heavyNoteInput (.record "Note") = .error error ∧
        notes.structureAs otherHeavyNoteInput (.record "Note") = .error error := by
  have noHooks : ∀ name hook, notes.hook? name = some hook →
      hook.RespectsEquality ∧ hook.IgnoresOrder := nofun
  have wellFormedOther : otherNoteInput.WellFormed := by
    simp [otherNoteInput, Value.WellFormed, Value.EntriesWellFormed]
  have wellFormedHeavy : heavyNoteInput.WellFormed := by
    simp [heavyNoteInput, Value.WellFormed, Value.EntriesWellFormed]
  have wellFormedOtherHeavy : otherHeavyNoteInput.WellFormed := by
    simp [otherHeavyNoteInput, Value.WellFormed, Value.EntriesWellFormed]
  constructor
  · obtain ⟨equalIfEqual, _⟩ := Registry.structuring_respects_equality built_notes noHooks
      (.record "Note") wellFormed_noteInput wellFormedOther
    have same : (noteInput == otherNoteInput) = true := by decide
    exact ⟨_, _, rfl, rfl, equalIfEqual same fillsGaps_noteInput _ _ rfl rfl⟩
  · obtain ⟨_, alike⟩ := Registry.structuring_respects_equality built_notes noHooks
      (.record "Note") wellFormedHeavy wellFormedOtherHeavy
    obtain ⟨_, sameError⟩ := alike (.of_perm wellFormedHeavy (.swap _ _ []))
    exact ⟨_, rfl, (sameError orderFree_heavyNoteInput _).1 rfl⟩

/-! ## A gap filled with a NaN -/

/-- An empty map equals itself and has no NaN in it, but the reading made of it does not equal
itself: its level is the NaN that is the default. -/
theorem reading_ne_itself :
    readings.Built Text.unicode ∧
      (∀ name hook, readings.hook? name = some hook →
        hook.RespectsEquality ∧ hook.IgnoresOrder) ∧
      (Value.map []).NaNFree ∧ (Value.map [] == Value.map []) = true ∧
      ∃ value, readings.structureAs (.map []) (.record "Reading") = .ok value ∧
        (value == value) = false :=
  ⟨built_readings, nofun, (Value.nanFree_map_iff []).2 nofun, rfl, _, rfl, rfl⟩

end Sample

end Recast
