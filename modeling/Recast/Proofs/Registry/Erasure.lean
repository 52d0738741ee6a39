import Recast.Proofs.Registry.Built
import Recast.Proofs.Registry.Extension
import Recast.Proofs.Registry.Place
import Recast.Proofs.RoundTrip.Stripping

/-!
# Undeclared keys of closed records

Wherever an untyped value is read as a closed record, the keys that the record type does not
declare are dropped.  Erasing them beforehand, at every place that reading reaches, changes
neither the result nor the error: they do not show in paths, in sets without repetitions, or in
what an open record around or inside the closed one keeps.
-/

namespace Recast

variable {Payload : Type}

namespace Registry

/-! ## Erasing -/

mutual

/-- The value without the keys that closed records do not declare, where it is read as the type. -/
def eraseUndeclared (registry : Registry Payload) (raw : Value) (type : TypeExpr) : Value :=
  match type.required, raw with
  | .sequence item, .array items => .array (registry.eraseItems item items)
  | .set item, .array items => .array (registry.eraseItems item items)
  | .mapping _ value, .map entries => .map (registry.eraseEntries value entries)
  | .record name, .map entries =>
      match registry.record? name with
      | some recordType => .map (registry.eraseFields recordType entries)
      | none => .map entries
  | _, kept => kept

def eraseItems (registry : Registry Payload) (item : TypeExpr) : List Value → List Value
  | [] => []
  | raw :: rest => registry.eraseUndeclared raw item :: registry.eraseItems item rest

def eraseEntries (registry : Registry Payload) (type : TypeExpr) :
    List (String × Value) → List (String × Value)
  | [] => []
  | (key, raw) :: rest =>
      (key, registry.eraseUndeclared raw type) :: registry.eraseEntries type rest

/-- Declared fields are kept, erased as their types; of the other entries only those of an open
type are kept, as they are. -/
def eraseFields (registry : Registry Payload) (recordType : RecordType (Typed Payload)) :
    List (String × Value) → List (String × Value)
  | [] => []
  | (key, raw) :: rest =>
      match recordType.field? key with
      | some field =>
          (key, registry.eraseUndeclared raw field.type) :: registry.eraseFields recordType rest
      | none =>
          if recordType.isOpen then
            (key, raw) :: registry.eraseFields recordType rest
          else
            registry.eraseFields recordType rest

end

variable (registry : Registry Payload)

theorem eraseItems_eq_map (item : TypeExpr) (items : List Value) :
    registry.eraseItems item items = items.map fun raw => registry.eraseUndeclared raw item := by
  induction items with
  | nil => rfl
  | cons raw rest inductionHypothesis =>
      rw [eraseItems, inductionHypothesis, List.map_cons]

theorem eraseEntries_eq_mapValues (type : TypeExpr) (entries : Entries Value) :
    registry.eraseEntries type entries =
      Entries.mapValues (fun raw => registry.eraseUndeclared raw type) entries := by
  induction entries with
  | nil => rfl
  | cons entry rest inductionHypothesis =>
      rw [eraseEntries, inductionHypothesis]
      rfl

theorem eraseUndeclared_optional (raw : Value) (inner : TypeExpr) :
    registry.eraseUndeclared raw (.optional inner) = registry.eraseUndeclared raw inner := by
  cases raw <;> rfl

/-- Erasing neither makes a value `null` nor takes a `null` away. -/
theorem isNull_eraseUndeclared (raw : Value) (type : TypeExpr) :
    (registry.eraseUndeclared raw type).isNull = raw.isNull := by
  rw [eraseUndeclared.eq_def]
  cases type.required <;> cases raw <;> first | rfl | skip
  dsimp only
  split <;> rfl

theorem eraseUndeclared_null (type : TypeExpr) :
    registry.eraseUndeclared .null type = .null := by
  have isNull := registry.isNull_eraseUndeclared .null type
  cases erased : registry.eraseUndeclared .null type with
  | null => rfl
  | _ =>
      rw [erased] at isNull
      contradiction

/-! ## Fields of a record -/

variable {alphabet : Text.Alphabet} {registry} {recordType : RecordType (Typed Payload)}

/-- Under the name of a field stands what stood there, erased as the type of the field. -/
theorem lookup_eraseFields (distinct : recordType.DistinctFields)
    {field : Field (Typed Payload)} (member : field ∈ recordType.fields)
    (entries : Entries Value) :
    (registry.eraseFields recordType entries).lookup field.name =
      (entries.lookup field.name).map fun raw => registry.eraseUndeclared raw field.type := by
  have declared : recordType.field? field.name = some field :=
    (RecordType.field?_eq_some_iff distinct field.name field).2 ⟨member, rfl⟩
  induction entries with
  | nil => rfl
  | cons entry rest inductionHypothesis =>
      obtain ⟨key, raw⟩ := entry
      by_cases sameKey : field.name = key
      · subst sameKey
        rw [eraseFields, declared]
        simp
      · have otherKey : (field.name == key) = false := beq_false_of_ne sameKey
        rw [eraseFields, List.lookup_cons, otherKey, ← inductionHypothesis]
        split
        · rw [List.lookup_cons, otherKey]
        · split
          · rw [List.lookup_cons, otherKey]
          · rfl

theorem input?_eraseFields (distinct : recordType.DistinctFields)
    {field : Field (Typed Payload)} (member : field ∈ recordType.fields)
    (entries : Entries Value) :
    field.input? (registry.eraseFields recordType entries) =
      (field.input? entries).map fun raw => registry.eraseUndeclared raw field.type := by
  rw [Field.input?, Field.input?, lookup_eraseFields distinct member]
  cases entries.lookup field.name with
  | none => rfl
  | some raw =>
      rw [Option.map_some, Option.filter_some, Option.filter_some, isNull_eraseUndeclared]
      split <;> rfl

variable (registry) in
/-- Open types keep all keys in their order, and what they do not declare as it is. -/
theorem eraseFields_of_isOpen (isOpen : recordType.isOpen = true) (entries : Entries Value) :
    Entries.keys (registry.eraseFields recordType entries) = Entries.keys entries ∧
      ((registry.eraseFields recordType entries).filter fun entry =>
        !recordType.declares entry.1) =
          entries.filter fun entry => !recordType.declares entry.1 := by
  induction entries with
  | nil => exact ⟨rfl, rfl⟩
  | cons entry rest inductionHypothesis =>
      obtain ⟨key, raw⟩ := entry
      obtain ⟨sameKeys, sameUndeclared⟩ := inductionHypothesis
      rw [eraseFields]
      cases declared : recordType.field? key with
      | some field =>
          have declares : recordType.declares key = true := by
            rw [RecordType.declares, declared, Option.isSome_some]
          simp [declares, sameKeys, sameUndeclared]
      | none => simp [isOpen, sameKeys, sameUndeclared, List.filter_cons]

/-- Closed types keep only keys that they declare. -/
theorem declares_of_mem_eraseFields (closed : recordType.isOpen = false) {entries : Entries Value}
    {key : String} (member : key ∈ Entries.keys (registry.eraseFields recordType entries)) :
    recordType.declares key = true := by
  induction entries with
  | nil => contradiction
  | cons entry rest inductionHypothesis =>
      obtain ⟨entryKey, raw⟩ := entry
      rw [eraseFields] at member
      split at member
      · next field declared =>
          rcases List.mem_cons.1 member with rfl | later
          · rw [RecordType.declares, declared, Option.isSome_some]
          · exact inductionHypothesis later
      · rw [closed] at member
        exact inductionHypothesis member

/-! ## Places in what is erased -/

theorem eraseUndeclared_record {name : String}
    (registered : registry.record? name = some recordType) (entries : Entries Value) :
    registry.eraseUndeclared (.map entries) (.record name) =
      .map (registry.eraseFields recordType entries) := by
  simp only [eraseUndeclared, TypeExpr.required, registered]

/-- A map that is erased as a record comes from a map. -/
theorem exists_eraseFields {name : String}
    (registered : registry.record? name = some recordType) {raw : Value} {entries : Entries Value}
    (isErased : registry.eraseUndeclared raw (.record name) = .map entries) :
    ∃ originals, entries = registry.eraseFields recordType originals := by
  cases raw with
  | map originals =>
      rw [eraseUndeclared_record registered] at isErased
      exact ⟨originals, (Value.map.inj isErased).symm⟩
  | _ => contradiction

theorem exists_eraseItems_getElem? {item : TypeExpr} {originals : List Value} {position : Nat}
    {part : Value} (found : (registry.eraseItems item originals)[position]? = some part) :
    ∃ original, registry.eraseUndeclared original item = part := by
  rw [eraseItems_eq_map, List.getElem?_map, Option.map_eq_some_iff] at found
  obtain ⟨original, _, erased⟩ := found
  exact ⟨original, erased⟩

/-- Whatever stands at a place of an erased value is erased itself. -/
theorem Place.exists_eraseUndeclared
    (distinct : ∀ recordType ∈ registry.records, recordType.DistinctFields)
    {type inner : TypeExpr} {raw erased part : Value} {path : List Value.Step}
    (place : registry.Place type erased path inner part)
    (isErased : registry.eraseUndeclared raw type = erased) :
    ∃ original, registry.eraseUndeclared original inner = part := by
  induction place generalizing raw with
  | here type erased => exact ⟨raw, isErased⟩
  | optional _ _ inductionHypothesis =>
      rw [eraseUndeclared_optional] at isErased
      exact inductionHypothesis isErased
  | item found _ inductionHypothesis =>
      cases raw with
      | array originals =>
          cases isErased
          obtain ⟨original, partErased⟩ := exists_eraseItems_getElem? found
          exact inductionHypothesis partErased
      | _ => contradiction
  | element found _ inductionHypothesis =>
      cases raw with
      | array originals =>
          cases isErased
          obtain ⟨original, partErased⟩ := exists_eraseItems_getElem? found
          exact inductionHypothesis partErased
      | _ => contradiction
  | entry found _ inductionHypothesis =>
      cases raw with
      | map originals =>
          cases isErased
          rw [eraseEntries_eq_mapValues, Entries.lookup_mapValues, Option.map_eq_some_iff] at found
          obtain ⟨original, _, partErased⟩ := found
          exact inductionHypothesis partErased
      | _ => contradiction
  | field registered member found _ inductionHypothesis =>
      obtain ⟨originals, rfl⟩ := exists_eraseFields registered isErased
      rw [lookup_eraseFields (distinct _ (record?_eq_some registered).1) member,
        Option.map_eq_some_iff] at found
      obtain ⟨original, _, partErased⟩ := found
      exact inductionHypothesis partErased

/-! ## Structuring what is erased -/

variable [BEq Payload]

theorem structureItems_eraseItems (item : TypeExpr) (items : List Value)
    (same : ∀ raw ∈ items, ∀ type, registry.structureAs (registry.eraseUndeclared raw type) type =
      registry.structureAs raw type) (position : Nat) :
    Candidate.structureItems item .root position
        (registry.itemCandidates (registry.eraseItems item items)) =
      Candidate.structureItems item .root position (registry.itemCandidates items) := by
  rw [itemCandidates_eq_map, itemCandidates_eq_map, eraseItems_eq_map, List.map_map]
  exact Candidate.structureItems_congr
    (fun raw member => structureAt_congr (same raw member item)) .root position

theorem structureEntries_eraseEntries {type : TypeExpr} {entries : Entries Value}
    (same : ∀ entry ∈ entries, ∀ type,
      registry.structureAs (registry.eraseUndeclared entry.2 type) type =
        registry.structureAs entry.2 type) :
    Candidate.structureEntries type .root
        (registry.entryCandidates (registry.eraseEntries type entries)) =
      Candidate.structureEntries type .root (registry.entryCandidates entries) := by
  rw [entryCandidates_eq_mapValues, entryCandidates_eq_mapValues, eraseEntries_eq_mapValues,
    Entries.mapValues_mapValues]
  exact Candidate.structureEntries_congr
    (fun entry member => structureAt_congr (same entry member type)) .root

/-- A record is read alike from the erased entries if every field is. -/
theorem structureInput_eraseFields (distinct : recordType.DistinctFields)
    {entries : Entries Value}
    (same : ∀ field ∈ recordType.fields, ∀ raw, field.input? entries = some raw →
      registry.structureAs (registry.eraseUndeclared raw field.type) field.type =
        registry.structureAs raw field.type) :
    recordType.structureInput .root
        (registry.entryCandidates (registry.eraseFields recordType entries)) =
      recordType.structureInput .root (registry.entryCandidates entries) := by
  have sameSupplied :
      Field.supplyAll .root (registry.entryCandidates (registry.eraseFields recordType entries))
          recordType.fields =
        Field.supplyAll .root (registry.entryCandidates entries) recordType.fields := by
    refine Field.supplyAll_congr fun field member => ?_
    rw [supplyFrom_eq, supplyFrom_eq, input?_eraseFields distinct member]
    cases input : field.input? entries with
    | none => rfl
    | some raw =>
        have sameReport : field.reportsNull (registry.eraseUndeclared raw field.type) =
            field.reportsNull raw := by
          rw [Field.reportsNull, Field.reportsNull, isNull_eraseUndeclared]
        simp only [Option.map_some, sameReport, same field member raw input]
  rw [structureInput_eq, structureInput_eq, sameSupplied]
  cases isOpen : recordType.isOpen with
  | false => rfl
  | true =>
      obtain ⟨sameKeys, sameUndeclared⟩ := registry.eraseFields_of_isOpen isOpen entries
      simp only [if_true, sameKeys, sameUndeclared]

theorem structureAs_eraseUndeclared
    (distinct : ∀ recordType ∈ registry.records, recordType.DistinctFields) (raw : Value)
    (type : TypeExpr) :
    registry.structureAs (registry.eraseUndeclared raw type) type =
      registry.structureAs raw type := by
  induction type, raw using TypeExpr.inductionWithParts Value.partsInduction with
  | optional inner raw inductionHypothesis =>
      rw [eraseUndeclared_optional]
      cases present : raw.isNull with
      | true =>
          cases raw <;> try contradiction
          rw [eraseUndeclared_null]
      | false =>
          have stillPresent : (registry.eraseUndeclared raw inner).isNull = false := by
            rw [isNull_eraseUndeclared, present]
          rw [structureAs_optional registry stillPresent, structureAs_optional registry present,
            inductionHypothesis]
  | scalar kind raw => cases raw <;> rfl
  | any raw => cases raw <;> rfl
  | sequence item raw inductionHypothesis =>
      cases raw with
      | array items =>
          change registry.structureAs (.array (registry.eraseItems item items)) _ = _
          rw [structureAs_sequence_array, structureAs_sequence_array,
            structureItems_eraseItems item items inductionHypothesis]
      | _ => rfl
  | set item raw inductionHypothesis =>
      cases raw with
      | array items =>
          change registry.structureAs (.array (registry.eraseItems item items)) _ = _
          rw [structureAs_set_array, structureAs_set_array,
            structureItems_eraseItems item items inductionHypothesis]
      | _ => rfl
  | mapping key type raw inductionHypothesis =>
      cases raw with
      | map entries =>
          change registry.structureAs (.map (registry.eraseEntries type entries)) _ = _
          by_cases textKeys : key = .str
          · subst textKeys
            rw [structureAs_mapping_map, structureAs_mapping_map,
              structureEntries_eraseEntries fun entry member =>
                inductionHypothesis entry.2 (Value.mem_parts_map member)]
          · rw [structureAs_mapping_of_ne registry textKeys,
              structureAs_mapping_of_ne registry textKeys]
            rfl
      | _ => rfl
  | record name raw inductionHypothesis =>
      cases raw with
      | map entries =>
          rw [structureAs_record_eq, structureAs_record_eq, structureRecord, structureRecord]
          cases found : registry.record? name with
          | none => rfl
          | some recordType =>
              have sameRecord := structureInput_eraseFields
                (distinct recordType (record?_eq_some found).1) fun field member part input =>
                  inductionHypothesis part
                    (Value.mem_parts_of_lookup (lookup_of_input? input)) field.type
              rw [eraseUndeclared_record found]
              exact congrArg _ sameRecord
      | _ => rfl
  | custom name raw => cases raw <;> rfl

/-- Structuring does not see the undeclared keys of closed records: with them erased, at whatever
place they stand, a value is structured as before, with the same result or the same error.  So two
values that differ in such keys only are structured alike.  What is erased has no such key left. -/
theorem undeclared_keys_have_no_influence (built : registry.Built alphabet) (type : TypeExpr)
    (raw : Value) :
    registry.structureAs (registry.eraseUndeclared raw type) type =
        registry.structureAs raw type ∧
      (∀ other, registry.eraseUndeclared other type = registry.eraseUndeclared raw type →
        registry.structureAs other type = registry.structureAs raw type) ∧
      ∀ path name recordType entries,
        registry.Place type (registry.eraseUndeclared raw type) path (.record name)
          (.map entries) →
        registry.record? name = some recordType → recordType.isOpen = false →
        ∀ key ∈ Entries.keys entries, recordType.declares key = true := by
  have distinct : ∀ recordType ∈ registry.records, recordType.DistinctFields :=
    fun recordType member => (built.coherent recordType member).distinct
  refine ⟨structureAs_eraseUndeclared distinct raw type, ?_, ?_⟩
  · intro other sameErased
    rw [← structureAs_eraseUndeclared distinct other, sameErased,
      structureAs_eraseUndeclared distinct raw]
  · intro path name recordType entries place registered closed key keyMember
    obtain ⟨original, isErased⟩ := place.exists_eraseUndeclared distinct rfl
    obtain ⟨originals, rfl⟩ := exists_eraseFields registered isErased
    exact declares_of_mem_eraseFields closed keyMember

end Registry

/-! ## Labels that readings do not declare -/

namespace Sample

/-- Two readings of the same level, under labels that tell them apart. -/
def labelledReadings : Value :=
  .array [
    .map [("level", .integer 3), ("label", .string "in")],
    .map [("label", .string "out"), ("level", .integer 3)]]

def plainReadings : Value :=
  .array [.map [("level", .integer 3)], .map [("level", .integer 3)]]

/-- As a set, the two are one reading, with their labels or without. -/
theorem structureAs_plainReadings :
    readings.eraseUndeclared labelledReadings (.set (.record "Reading")) = plainReadings ∧
      readings.structureAs plainReadings (.set (.record "Reading")) =
        readings.structureAs labelledReadings (.set (.record "Reading")) := by
  have erased : readings.eraseUndeclared labelledReadings (.set (.record "Reading")) =
      plainReadings := rfl
  obtain ⟨same, _⟩ := Registry.undeclared_keys_have_no_influence built_readings
    (.set (.record "Reading")) labelledReadings
  rw [erased] at same
  exact ⟨erased, same⟩

end Sample

end Recast
