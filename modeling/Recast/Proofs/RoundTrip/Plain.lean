import Recast.Proofs.Number.Exactness
import Recast.Proofs.Registry.Place
import Recast.Proofs.Registry.Reading
import Recast.Proofs.Registry.Writing
import Recast.Proofs.TypeExpr.Induction
import Recast.Proofs.Value.Equality

/-!
# Reading and writing data of plain types

Of a type without sets, records and custom types, everything that is read is written again as it
was, except for integers that are read as floats.  An integer of more than fifty-three significant
bits is rounded when it is widened, and then what is written is another value.  So what comes back
equals what was read exactly if no integer is rounded.
-/

namespace Recast

variable {Payload : Type}

namespace TypeExpr

/-- Scalars and untyped values, in optional layers, sequences and mappings from texts. -/
def IsPlain : TypeExpr → Prop
  | .scalar _ => True
  | .any => True
  | .optional inner => inner.IsPlain
  | .sequence item => item.IsPlain
  | .mapping key value => key = .str ∧ value.IsPlain
  | .set _ => False
  | .record _ => False
  | .custom _ => False

/-- An integer in the place of a float is not rounded. -/
def WidensExactly : TypeExpr → Value → Prop
  | .scalar .float, .integer number => Binary64.FitsSignificand number.toInt
  | _, _ => True

end TypeExpr

theorem Value.float_ofInt_equal_iff (number : Int64) :
    (Value.float (.ofInt number.toInt)).equal (.integer number) = true ↔
      Binary64.FitsSignificand number.toInt := by
  have above := number.le_toInt
  have below := number.toInt_lt
  rw [Value.equal, beq_iff_eq, Binary64.toInt?_ofInt_eq_some_iff (by omega)]

namespace Registry

variable [BEq Payload]

/-- What was read is written again, and as an equal value exactly if no integer was rounded. -/
def ComesBack (registry : Registry Payload) (type : TypeExpr) (raw : Value)
    (value : Typed Payload) : Prop :=
  ∃ written, registry.unstructure .written value = .ok written ∧
    (written.equal raw = true ↔ registry.AtPlaces TypeExpr.WidensExactly type raw)

variable {registry : Registry Payload} {type item : TypeExpr} {raw : Value} {value : Typed Payload}

theorem ComesBack.rawOf (comesBack : registry.ComesBack type raw value) :
    registry.unstructure .written value = .ok (registry.rawOf value) ∧
      ((registry.rawOf value).equal raw = true ↔
        registry.AtPlaces TypeExpr.WidensExactly type raw) := by
  obtain ⟨written, ok, equalIff⟩ := comesBack
  rw [rawOf_eq ok]
  exact ⟨ok, equalIff⟩

/-- What is written as it was comes back. -/
theorem ComesBack.of_kept (kept : registry.unstructure .written value = .ok raw)
    (wellFormed : raw.WellFormed) (noNaN : raw.NaNFree)
    (unrounded : registry.AtPlaces TypeExpr.WidensExactly type raw) :
    registry.ComesBack type raw value :=
  ⟨raw, kept, iff_of_true ((Value.equal_self_iff wellFormed).2 noNaN) unrounded⟩

theorem ComesBack.optional (present : raw.isNull = false)
    (comesBack : registry.ComesBack type raw value) :
    registry.ComesBack (.optional type) raw value := by
  obtain ⟨written, ok, equalIff⟩ := comesBack
  refine ⟨written, ok, equalIff.trans ?_⟩
  constructor
  · exact AtPlaces.of_optional trivial
  · exact AtPlaces.optional present

/-- Only an integer that is widened may come back as another value. -/
theorem comesBack_scalar {kind : Scalar} (wellFormed : raw.WellFormed) (noNaN : raw.NaNFree)
    (structured : registry.structureAs raw (.scalar kind) = .ok value) :
    registry.ComesBack (.scalar kind) raw value := by
  by_cases widened : kind = .float ∧ ∃ number, raw = .integer number
  · obtain ⟨rfl, number, rfl⟩ := widened
    cases structured
    refine ⟨.float (.ofInt number.toInt), rfl, (Value.float_ofInt_equal_iff number).trans ?_⟩
    constructor
    · intro fits
      exact AtPlaces.of_scalar fits
    · intro unrounded
      exact unrounded.here
  · have unrounded : TypeExpr.WidensExactly (.scalar kind) raw := by
      cases kind <;> cases raw <;> first | trivial | exact absurd ⟨rfl, _, rfl⟩ widened
    apply ComesBack.of_kept _ wellFormed noNaN (AtPlaces.of_scalar unrounded)
    cases kind <;> cases raw <;>
      first
      | contradiction
      | exact absurd ⟨rfl, _, rfl⟩ widened
      | (cases structured; rfl)

section Containers

variable {valueOf : Value → Typed Payload}

theorem comesBack_sequence {items : List Value}
    (each : ∀ part ∈ items, registry.ComesBack item part (valueOf part)) :
    registry.ComesBack (.sequence item) (.array items) (.sequence (items.map valueOf)) := by
  have parts := fun part member => (each part member).rawOf
  refine ⟨.array (items.map fun part => registry.rawOf (valueOf part)), ?_, ?_⟩
  · rw [unstructure_sequence_eq_ok
      (List.forall_mem_map.2 fun part member => (parts part member).1), List.map_map]
    rfl
  · rw [Value.equal, Value.equalItems_iff, List.forall₂_map_left_iff, List.forall₂_same]
    constructor
    · intro allEqual
      refine AtPlaces.of_sequence trivial ?_
      intro part member
      exact (parts part member).2.1 (allEqual part member)
    · intro unrounded part member
      exact (parts part member).2.2 (unrounded.item member)

theorem comesBack_mapping {entries : Entries Value} (distinct : (Entries.keys entries).Nodup)
    (each : ∀ entry ∈ entries, registry.ComesBack type entry.2 (valueOf entry.2)) :
    registry.ComesBack (.mapping .str type) (.map entries)
      (.mapping (Entries.mapValues valueOf entries)) := by
  have parts := fun entry member => (each entry member).rawOf
  refine ⟨.map (Entries.mapValues (fun part => registry.rawOf (valueOf part)) entries), ?_, ?_⟩
  · have computed : ∀ entry ∈ Entries.mapValues valueOf entries,
        registry.unstructure .written entry.2 = .ok (registry.rawOf entry.2) :=
      List.forall_mem_map.2 fun entry member => (parts entry member).1
    rw [unstructure_mapping_eq_ok computed, Entries.mapValues_mapValues]
    rfl
  · rw [Value.equal_map_iff, Entries.Agree.mapValues_left_iff distinct]
    constructor
    · intro allEqual
      refine AtPlaces.of_mapping trivial ?_
      intro key part found
      have member := Entries.mem_of_lookup found
      exact (parts _ member).2.1 (allEqual _ member)
    · intro unrounded entry member
      exact (parts entry member).2.2 (unrounded.entry (Entries.lookup_of_mem distinct member))

end Containers

/-- Whatever is read as a plain type is written again, and as an equal value exactly if no integer
was rounded to a float. -/
theorem plain_round_trip (registry : Registry Payload) {type : TypeExpr} (plain : type.IsPlain)
    {raw : Value} (wellFormed : raw.WellFormed) (noNaN : raw.NaNFree) {value : Typed Payload}
    (structured : registry.structureAs raw type = .ok value) :
    ∃ written, registry.unstructure .written value = .ok written ∧
      ((written == raw) = true ↔ registry.AtPlaces TypeExpr.WidensExactly type raw) := by
  induction type, raw using TypeExpr.inductionWithParts Value.partsInduction generalizing value with
  | optional inner raw inductionHypothesis =>
      by_cases isNull : raw = .null
      · subst isNull
        rw [structureAs_null_optional] at structured
        cases structured
        exact ComesBack.of_kept rfl wellFormed noNaN (AtPlaces.of_null trivial)
      · have present : raw.isNull = false := by
          cases raw <;> first | rfl | contradiction
        rw [structureAs_optional registry present] at structured
        exact ComesBack.optional present (inductionHypothesis plain wellFormed noNaN structured)
  | scalar kind raw => exact comesBack_scalar wellFormed noNaN structured
  | any raw =>
      rw [structureAs_any] at structured
      cases structured
      exact ComesBack.of_kept rfl wellFormed noNaN (AtPlaces.of_any trivial)
  | sequence item raw inductionHypothesis =>
      obtain ⟨items, valueOf, rfl, computed, rfl⟩ :=
        (structureAs_sequence_eq_ok_iff registry item raw value).1 structured
      rw [Value.wellFormed_array_iff] at wellFormed
      rw [Value.nanFree_array_iff] at noNaN
      apply comesBack_sequence
      intro part member
      exact inductionHypothesis part member item plain (wellFormed part member)
        (noNaN part member) (computed part member)
  | mapping key type raw inductionHypothesis =>
      obtain ⟨entries, valueOf, rfl, rfl, computed, rfl⟩ :=
        (structureAs_mapping_eq_ok_iff registry key type raw value).1 structured
      obtain ⟨distinct, valuesWellFormed⟩ := (Value.wellFormed_map_iff entries).1 wellFormed
      rw [Value.nanFree_map_iff] at noNaN
      apply comesBack_mapping distinct
      intro entry member
      exact inductionHypothesis entry.2 (Value.mem_parts_map member) type plain.2
        (valuesWellFormed entry member) (noNaN entry member) (computed entry member)
  | set item raw => exact plain.elim
  | record name raw => exact plain.elim
  | custom name raw => exact plain.elim

end Registry

namespace Sample

def levelsType : TypeExpr :=
  .mapping .str (.sequence (.optional (.scalar .float)))

/-- A level of fifty-four bits of which fifty-three are significant, and one that is missing. -/
def levels : Value :=
  .map [("Monday", .array [.integer 9007199254740994, .null]), ("Tuesday", .array [])]

def typedLevels : Typed Unit :=
  .mapping [
    ("Monday", .sequence [.float (.ofInt 9007199254740994), .missing]),
    ("Tuesday", .sequence [])]

theorem nanFree_levels : levels.NaNFree := by
  have plainNaNFree : ∀ item : Value, item.parts = [] → item.isNaN = false → item.NaNFree :=
    fun item isLeaf => (Value.nanFree_of_parts_eq_nil isLeaf).2
  simp only [levels, Value.nanFree_map_iff, Value.nanFree_array_iff, List.forall_mem_cons,
    List.not_mem_nil, false_implies, implies_true, and_true]
  exact ⟨plainNaNFree _ rfl rfl, plainNaNFree _ rfl rfl⟩

theorem unrounded_levels (registry : Registry Unit) :
    registry.AtPlaces TypeExpr.WidensExactly levelsType levels := by
  have widened : Binary64.FitsSignificand (9007199254740994 : Int64).toInt :=
    ⟨4503599627370497, 1, rfl, by decide⟩
  refine .of_mapping trivial ?_
  intro key part found
  rcases List.mem_cons.1 (Entries.mem_of_lookup found) with isMonday | isTuesday
  · cases isMonday
    refine .of_sequence trivial ?_
    simp only [List.forall_mem_cons, List.not_mem_nil, false_implies, implies_true, and_true]
    exact ⟨.of_optional trivial (.of_scalar widened), .of_null trivial⟩
  · rw [List.mem_singleton] at isTuesday
    cases isTuesday
    exact .of_sequence trivial nofun

/-- The levels come back as equal ones. -/
theorem plain_round_trip_levels :
    ({} : Registry Unit).structureAs levels levelsType = .ok typedLevels ∧
      ∃ written, ({} : Registry Unit).unstructure .written typedLevels = .ok written ∧
        (written == levels) = true := by
  have plain : levelsType.IsPlain := ⟨rfl, trivial⟩
  have wellFormed : levels.WellFormed := by
    simp [levels, Value.WellFormed, Value.EntriesWellFormed, Value.ItemsWellFormed]
  have structured :
      ({} : Registry Unit).structureAs levels levelsType = .ok typedLevels := rfl
  obtain ⟨written, ok, equalIff⟩ :=
    Registry.plain_round_trip {} plain wellFormed nanFree_levels structured
  exact ⟨structured, written, ok, equalIff.2 (unrounded_levels {})⟩

/-- An odd integer of fifty-four bits is read as a float, and comes back as its even neighbour. -/
theorem odd_integer_comes_back_even :
    ∃ value written,
      ({} : Registry Unit).structureAs (.integer 9007199254740993) (.scalar .float) = .ok value ∧
        ({} : Registry Unit).unstructure .written value = .ok written ∧
        (written == .integer 9007199254740992) = true ∧
        (written == .integer 9007199254740993) = false :=
  ⟨.float (.ofInt 9007199254740993), .float (.ofInt 9007199254740993), rfl, rfl, by decide,
    by decide⟩

end Sample

end Recast
