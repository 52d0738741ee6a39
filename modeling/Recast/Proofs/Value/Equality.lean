import Recast.Proofs.Entries.Agreement
import Recast.Proofs.Number.Equality
import Recast.Proofs.Occurrence
import Recast.Value.Equality

/-!
# Laws of equality of untyped values

Equality is symmetric and transitive, and a value equals itself exactly when it holds no NaN at
any depth.  Symmetry and self-equality need that no map has a key twice.
-/

namespace Recast.Value

/-! ## Parts -/

/-- The items of an array or the values of a map. -/
def parts : Value → List Value
  | .array items => items
  | .map entries => entries.map Prod.snd
  | _ => []

theorem mem_parts_map {entries : Entries Value} {entry : String × Value}
    (member : entry ∈ entries) :
    entry.2 ∈ (Value.map entries).parts :=
  List.mem_map.2 ⟨entry, member, rfl⟩

theorem mem_parts_of_lookup {entries : Entries Value} {key : String} {part : Value}
    (found : entries.lookup key = some part) :
    part ∈ (Value.map entries).parts :=
  mem_parts_map (Entries.mem_of_lookup found)

theorem sizeOf_lt_of_mem_parts {part whole : Value} (member : part ∈ whole.parts) :
    sizeOf part < sizeOf whole := by
  cases whole with
  | array items =>
      have smaller := List.sizeOf_lt_of_mem (show part ∈ items from member)
      rw [Value.array.sizeOf_spec]
      omega
  | map entries =>
      obtain ⟨⟨key, value⟩, entryMember, rfl⟩ := List.mem_map.1 member
      have smaller := List.sizeOf_lt_of_mem entryMember
      rw [Prod.mk.sizeOf_spec] at smaller
      rw [Value.map.sizeOf_spec]
      show sizeOf value < _
      omega
  | _ => contradiction

/-- What passes from the direct parts of a value to the value holds of all values. -/
theorem partsInduction {motive : Value → Prop}
    (step : ∀ value, (∀ part ∈ value.parts, motive part) → motive value) (value : Value) :
    motive value :=
  step value fun part member =>
    have := sizeOf_lt_of_mem_parts member
    partsInduction step part
termination_by sizeOf value

theorem wellFormed_array_iff (items : List Value) :
    (Value.array items).WellFormed ↔ ∀ item ∈ items, item.WellFormed :=
  itemsWellFormed_iff items

theorem wellFormed_map_iff (entries : Entries Value) :
    (Value.map entries).WellFormed ↔
      (Entries.keys entries).Nodup ∧ ∀ entry ∈ entries, entry.2.WellFormed :=
  and_congr_right fun _ => entriesWellFormed_iff entries

/-! ## Absence of NaN -/

def isNaN : Value → Bool
  | .float number => number.isNaN
  | _ => false

/-- The value holds no NaN at any depth. -/
def NaNFree (value : Value) : Prop :=
  Everywhere parts (fun part => part.isNaN = false) value

theorem nanFree_array_iff (items : List Value) :
    (Value.array items).NaNFree ↔ ∀ item ∈ items, item.NaNFree := by
  rw [NaNFree, Everywhere.iff_and_forall]
  exact and_iff_right rfl

theorem nanFree_map_iff (entries : Entries Value) :
    (Value.map entries).NaNFree ↔ ∀ entry ∈ entries, entry.2.NaNFree := by
  rw [NaNFree, Everywhere.iff_and_forall, parts, List.forall_mem_map]
  exact and_iff_right rfl

theorem nanFree_of_parts_eq_nil {value : Value} (plain : value.parts = []) :
    value.NaNFree ↔ value.isNaN = false := by
  rw [NaNFree, Everywhere.iff_and_forall, plain]
  simp

/-! ## Equality of arrays and maps -/

theorem equalItems_iff (left right : List Value) :
    equalItems left right = true ↔
      List.Forall₂ (fun first second => first.equal second = true) left right := by
  induction left generalizing right with
  | nil => cases right <;> simp [equalItems]
  | cons first rest inductionHypothesis =>
      cases right with
      | nil => simp [equalItems]
      | cons second others => simp [equalItems, inductionHypothesis]

theorem entriesAgree_iff (left right : Entries Value) :
    entriesAgree left right = true ↔
      ∀ entry ∈ left, ∃ other,
        right.lookup entry.1 = some other ∧ entry.2.equal other = true := by
  induction left with
  | nil => simp [entriesAgree]
  | cons entry rest inductionHypothesis =>
      obtain ⟨key, value⟩ := entry
      rw [entriesAgree, Bool.and_eq_true, inductionHypothesis, List.forall_mem_cons]
      apply and_congr_left
      intro _
      cases right.lookup key <;> simp

theorem equalEntries_iff (left right : Entries Value) :
    equalEntries left right = true ↔
      Entries.Agree (fun first second => first.equal second = true) left right := by
  rw [equalEntries, Bool.and_eq_true, beq_iff_eq, entriesAgree_iff]
  rfl

theorem equal_map_iff (left right : Entries Value) :
    (Value.map left).equal (.map right) = true ↔
      Entries.Agree (fun first second => first.equal second = true) left right := by
  rw [← equalEntries_iff, equal, equalEntries]

/-! ## Laws -/

/-- A value equals itself exactly when it holds no NaN. -/
theorem equal_self_iff {value : Value} (wellFormed : value.WellFormed) :
    value.equal value = true ↔ value.NaNFree := by
  induction value using partsInduction with
  | step value inductionHypothesis =>
      cases value with
      | array items =>
          rw [wellFormed_array_iff] at wellFormed
          rw [equal, equalItems_iff, List.forall₂_same, nanFree_array_iff]
          exact forall₂_congr fun item member =>
            inductionHypothesis item member (wellFormed item member)
      | map entries =>
          obtain ⟨distinct, valuesWellFormed⟩ := (wellFormed_map_iff entries).1 wellFormed
          have selfIff : ∀ entry ∈ entries,
              entry.2.equal entry.2 = true ↔ entry.2.NaNFree := fun entry member =>
            inductionHypothesis entry.2 (mem_parts_map member) (valuesWellFormed entry member)
          rw [equal_map_iff, Entries.Agree.self_iff distinct, nanFree_map_iff]
          exact forall₂_congr selfIff
      | float number =>
          rw [equal, nanFree_of_parts_eq_nil rfl, Binary64.equal_self_iff]
          rfl
      | _ =>
          rw [nanFree_of_parts_eq_nil rfl]
          simp [equal, isNaN]

theorem equal_symm {left right : Value} (wellFormed : left.WellFormed)
    (same : left.equal right = true) :
    right.equal left = true := by
  induction left using partsInduction generalizing right with
  | step left inductionHypothesis =>
      cases left with
      | array items =>
          cases right with
          | array others =>
              rw [wellFormed_array_iff] at wellFormed
              rw [equal, equalItems_iff] at same ⊢
              exact Entries.forall₂_symm same fun item member _ sameItem =>
                inductionHypothesis item member (wellFormed item member) sameItem
          | _ => simp [equal] at same
      | map entries =>
          cases right with
          | map others =>
              obtain ⟨distinct, valuesWellFormed⟩ := (wellFormed_map_iff entries).1 wellFormed
              rw [equal_map_iff] at same ⊢
              exact same.symm distinct fun entry member _ sameValue =>
                inductionHypothesis entry.2 (mem_parts_map member)
                  (valuesWellFormed entry member) sameValue
          | _ => simp [equal] at same
      | float number =>
          cases right with
          | float other =>
              rw [equal] at same ⊢
              exact Binary64.equal_symm same
          | integer other => simpa [equal] using same
          | _ => simp [equal] at same
      | integer number =>
          cases right with
          | integer other =>
              rw [equal, beq_iff_eq] at same ⊢
              exact same.symm
          | float other => simpa [equal] using same
          | _ => simp [equal] at same
      | _ =>
          cases right <;> simp_all [equal]

theorem equal_trans {left middle right : Value} (sameLeft : left.equal middle = true)
    (sameRight : middle.equal right = true) :
    left.equal right = true := by
  induction left using partsInduction generalizing middle right with
  | step left inductionHypothesis =>
      cases left with
      | array items =>
          cases middle with
          | array between =>
              cases right with
              | array others =>
                  rw [equal, equalItems_iff] at sameLeft sameRight ⊢
                  exact Entries.forall₂_trans sameLeft sameRight fun item member _ _ =>
                    inductionHypothesis item member
              | _ => simp [equal] at sameRight
          | _ => simp [equal] at sameLeft
      | map entries =>
          cases middle with
          | map between =>
              cases right with
              | map others =>
                  rw [equal_map_iff] at sameLeft sameRight ⊢
                  exact sameLeft.trans sameRight fun entry member _ _ =>
                    inductionHypothesis entry.2 (mem_parts_map member)
              | _ => simp [equal] at sameRight
          | _ => simp [equal] at sameLeft
      | float number =>
          cases middle with
          | float between =>
              rw [equal] at sameLeft
              cases right with
              | float other => exact Binary64.equal_trans sameLeft sameRight
              | integer other =>
                  rw [equal, Binary64.toInt?_eq_of_equal sameLeft]
                  exact sameRight
              | _ => simp [equal] at sameRight
          | integer between =>
              rw [equal, beq_iff_eq] at sameLeft
              cases right with
              | float other =>
                  rw [equal, beq_iff_eq] at sameRight
                  exact Binary64.equal_of_toInt?_eq sameLeft sameRight
              | integer other =>
                  rw [equal, beq_iff_eq] at sameRight
                  rw [← sameRight, equal, sameLeft]
                  exact BEq.rfl
              | _ => simp [equal] at sameRight
          | _ => simp [equal] at sameLeft
      | integer number =>
          cases middle with
          | float between =>
              rw [equal, beq_iff_eq] at sameLeft
              cases right with
              | float other =>
                  rw [equal] at sameRight
                  rw [equal, ← Binary64.toInt?_eq_of_equal sameRight, sameLeft]
                  exact BEq.rfl
              | integer other =>
                  rw [equal, beq_iff_eq, sameLeft, Option.some.injEq] at sameRight
                  rw [equal, beq_iff_eq]
                  exact Int64.toInt_inj.1 sameRight
              | _ => simp [equal] at sameRight
          | integer between =>
              rw [equal, beq_iff_eq] at sameLeft
              rw [sameLeft]
              exact sameRight
          | _ => simp [equal] at sameLeft
      | string text =>
          cases middle with
          | string between =>
              rw [equal, beq_iff_eq] at sameLeft
              rw [sameLeft]
              exact sameRight
          | _ => simp [equal] at sameLeft
      | bool truth =>
          cases middle with
          | bool between =>
              rw [equal, beq_iff_eq] at sameLeft
              rw [sameLeft]
              exact sameRight
          | _ => simp [equal] at sameLeft
      | null =>
          cases middle with
          | null => exact sameRight
          | _ => simp [equal] at sameLeft

end Recast.Value
