import Recast.Json.Conversion
import Recast.Proofs.Value.Equality

/-!
# What documents and untyped values lose to each other

Turning a value into a document and back yields the same value, kinds of numbers and order of keys
included, unless a float in it is infinite or not a number.  Turning a document into a value and
back yields the same document unless a number in it is an integer that is too large for a value.
-/

namespace Recast

/-! ## Changes that change nothing -/

theorem map_eq_self_iff {α : Type} (change : α → α) (items : List α) :
    items.map change = items ↔ ∀ item ∈ items, change item = item := by
  have pointwise : items.map change = items.map id ↔ ∀ item ∈ items, change item = item :=
    List.map_inj_left
  rw [List.map_id] at pointwise
  exact pointwise

theorem Entries.mapValues_eq_self_iff {α : Type} (change : α → α) (entries : Entries α) :
    mapValues change entries = entries ↔ ∀ entry ∈ entries, change entry.2 = entry.2 := by
  rw [mapValues, map_eq_self_iff]
  simp only [Prod.ext_iff, true_and]

/-! ## Numbers -/

namespace JsonNumber

/-- The number is kept as an integer that is too large for a signed one. -/
def isTooLarge : JsonNumber → Bool
  | .unsigned number => 0x8000000000000000 ≤ number.toNat
  | _ => false

theorem toInt64_lt_zero_iff (number : UInt64) :
    number.toInt64 < 0 ↔ 0x8000000000000000 ≤ number.toNat := by
  have asSigned : number.toInt64.toInt =
      if 2 * number.toNat < 2 ^ 64 then (number.toNat : Int) else number.toNat - (2 ^ 64 : Nat) :=
    BitVec.toInt_eq_toNat_cond number.toBitVec
  have bound := number.toNat_lt
  have zero : (0 : Int64).toInt = 0 := rfl
  rw [Int64.lt_iff_toInt_lt, asSigned, zero]
  split <;> omega

/-- An integer is kept as the integer that it is. -/
theorem toInt64?_ofInt64 (whole : Int64) : (ofInt64 whole).toInt64? = some whole := by
  rw [ofInt64]
  split
  · rfl
  · next notNegative =>
      have fits := mt (toInt64_lt_zero_iff whole.toUInt64).2
      rw [Int64.toInt64_toUInt64] at fits
      rw [toInt64?, if_pos (Nat.lt_of_not_le (fits notNegative)), Int64.toInt64_toUInt64]

theorem ofInt64_toInt64 {number : UInt64} (fits : number.toNat < 0x8000000000000000) :
    ofInt64 number.toInt64 = .unsigned number := by
  have notNegative : ¬ number.toInt64 < 0 :=
    mt (toInt64_lt_zero_iff number).1 (Nat.not_le_of_lt fits)
  rw [ofInt64, dif_neg notNegative, UInt64.toUInt64_toInt64]

end JsonNumber

/-- A float is a number of a document exactly when it is finite, and else it is `null` there. -/
theorem Value.ofJson_ofBinary64 (number : Binary64) :
    Value.ofJson (.ofBinary64 number) = if number.isFinite then .float number else .null := by
  by_cases finite : number.isFinite = true
  · rw [Json.ofBinary64, JsonNumber.ofBinary64?, dif_pos finite, if_pos finite]
    rfl
  · rw [Json.ofBinary64, JsonNumber.ofBinary64?, dif_neg finite, if_neg finite]
    rfl

/-- A float never becomes an integer. -/
theorem Json.ofBinary64_ne_unsigned (number : Binary64) (whole : UInt64) :
    Json.ofBinary64 number ≠ .number (.unsigned whole) := by
  by_cases finite : number.isFinite = true
  · simp [Json.ofBinary64, JsonNumber.ofBinary64?, finite]
  · simp [Json.ofBinary64, JsonNumber.ofBinary64?, finite]

/-- A number comes back unless it is too large, in which case a float takes its place. -/
theorem Json.toJson_ofJsonNumber_iff (number : JsonNumber) :
    (Value.ofJsonNumber number).toJson = .number number ↔ number.isTooLarge = false := by
  cases number with
  | unsigned whole =>
      by_cases fits : whole.toNat < 0x8000000000000000
      · have back : (Value.ofJsonNumber (.unsigned whole)).toJson = .number (.unsigned whole) := by
          rw [Value.ofJsonNumber, JsonNumber.toInt64?, if_pos fits]
          exact congrArg Json.number (JsonNumber.ofInt64_toInt64 fits)
        simpa [back, JsonNumber.isTooLarge] using fits
      · have isFloat : (Value.ofJsonNumber (.unsigned whole)).toJson =
            .ofBinary64 (JsonNumber.unsigned whole).toBinary64 := by
          rw [Value.ofJsonNumber, JsonNumber.toInt64?, if_neg fits]
          rfl
        simpa [isFloat, ofBinary64_ne_unsigned, JsonNumber.isTooLarge] using fits
  | negative whole isNegative =>
      have back : JsonNumber.ofInt64 whole = .negative whole isNegative := dif_pos isNegative
      simp [Value.ofJsonNumber, JsonNumber.toInt64?, Value.toJson, back, JsonNumber.isTooLarge]
  | float number isFinite =>
      have back : (Value.ofJsonNumber (.float number isFinite)).toJson =
          .number (.float number isFinite) := by
        simp [Value.ofJsonNumber, JsonNumber.toInt64?, JsonNumber.toBinary64, Value.toJson,
          Json.ofBinary64, JsonNumber.ofBinary64?, isFinite]
      simp [back, JsonNumber.isTooLarge]

/-! ## Values -/

namespace Value

/-- The value is not a float that is infinite or not a number. -/
def isExpressible : Value → Bool
  | .float number => number.isFinite
  | _ => true

/-- A value comes back from its document exactly when every float in it is finite. -/
theorem ofJson_toJson_iff (value : Value) :
    Value.ofJson value.toJson = value ↔
      Everywhere parts (fun part => part.isExpressible = true) value := by
  induction value using partsInduction with
  | step value inductionHypothesis =>
      rw [Everywhere.iff_and_forall]
      cases value with
      | array items =>
          rw [toJson, ofJson, ofJsonItems_eq_map, itemsToJson_eq_map, List.map_map, array.injEq,
            map_eq_self_iff]
          exact (forall₂_congr inductionHypothesis).trans (and_iff_right rfl).symm
      | map entries =>
          rw [toJson, ofJson, ofJsonMembers_eq_mapValues, entriesToJson_eq_mapValues,
            Entries.mapValues_mapValues, map.injEq, Entries.mapValues_eq_self_iff, parts,
            List.forall_mem_map]
          refine Iff.trans ?_ (and_iff_right rfl).symm
          exact forall₂_congr fun entry member => inductionHypothesis entry.2 (mem_parts_map member)
      | integer number =>
          rw [toJson, ofJson, ofJsonNumber, JsonNumber.toInt64?_ofInt64]
          simp [isExpressible, parts]
      | float number =>
          rw [toJson, ofJson_ofBinary64]
          cases finite : number.isFinite <;> simp [isExpressible, parts, finite]
      | _ => simp [toJson, ofJson, isExpressible, parts]

end Value

/-! ## Documents -/

namespace Json

/-- The items of an array or the members of an object. -/
def parts : Json → List Json
  | .array items => items
  | .object members => members.map Prod.snd
  | _ => []

theorem mem_parts_object {members : Entries Json} {entry : String × Json}
    (member : entry ∈ members) :
    entry.2 ∈ (Json.object members).parts :=
  List.mem_map.2 ⟨entry, member, rfl⟩

theorem sizeOf_lt_of_mem_parts {part whole : Json} (member : part ∈ whole.parts) :
    sizeOf part < sizeOf whole := by
  cases whole with
  | array items =>
      have smaller := List.sizeOf_lt_of_mem (show part ∈ items from member)
      rw [Json.array.sizeOf_spec]
      omega
  | object members =>
      obtain ⟨⟨key, value⟩, entryMember, rfl⟩ := List.mem_map.1 member
      have smaller := List.sizeOf_lt_of_mem entryMember
      rw [Prod.mk.sizeOf_spec] at smaller
      rw [Json.object.sizeOf_spec]
      show sizeOf value < _
      omega
  | _ => contradiction

/-- What passes from the direct parts of a document to the document holds of all documents. -/
theorem partsInduction {motive : Json → Prop}
    (step : ∀ json, (∀ part ∈ json.parts, motive part) → motive json) (json : Json) :
    motive json :=
  step json fun part member =>
    have := sizeOf_lt_of_mem_parts member
    partsInduction step part
termination_by sizeOf json

/-- The document is not an integer that is too large for a value. -/
def isExpressible : Json → Bool
  | .number kept => !kept.isTooLarge
  | _ => true

/-- A document comes back from its value exactly when no integer in it is too large. -/
theorem toJson_ofJson_iff (json : Json) :
    (Value.ofJson json).toJson = json ↔
      Everywhere parts (fun part => part.isExpressible = true) json := by
  induction json using partsInduction with
  | step json inductionHypothesis =>
      rw [Everywhere.iff_and_forall]
      cases json with
      | array items =>
          rw [Value.ofJson, Value.toJson, Value.ofJsonItems_eq_map, Value.itemsToJson_eq_map,
            List.map_map, array.injEq, map_eq_self_iff]
          exact (forall₂_congr inductionHypothesis).trans (and_iff_right rfl).symm
      | object members =>
          rw [Value.ofJson, Value.toJson, Value.ofJsonMembers_eq_mapValues,
            Value.entriesToJson_eq_mapValues, Entries.mapValues_mapValues, object.injEq,
            Entries.mapValues_eq_self_iff, parts, List.forall_mem_map]
          refine Iff.trans ?_ (and_iff_right rfl).symm
          exact forall₂_congr fun entry member =>
            inductionHypothesis entry.2 (mem_parts_object member)
      | number number =>
          rw [Value.ofJson, toJson_ofJsonNumber_iff]
          simp [isExpressible, parts]
      | _ => simp [Value.ofJson, Value.toJson, isExpressible, parts]

end Json

/-- Values and documents come back unchanged from each other except for what the other kind of
tree cannot express: infinite floats and NaNs in values, and integers above the signed ones in
documents. -/
theorem Json.bridge_round_trips :
    (∀ value : Value, Value.ofJson value.toJson = value ↔
      Everywhere Value.parts (fun part => part.isExpressible = true) value) ∧
    ∀ json : Json, (Value.ofJson json).toJson = json ↔
      Everywhere Json.parts (fun part => part.isExpressible = true) json :=
  ⟨Value.ofJson_toJson_iff, Json.toJson_ofJson_iff⟩

end Recast
