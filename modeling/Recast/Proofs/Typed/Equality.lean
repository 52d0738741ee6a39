import Recast.Proofs.Typed.Distinct
import Recast.Proofs.Typed.Parts
import Recast.Proofs.Value.Equality
import Recast.Typed.Equality

/-!
# Laws of equality of typed values

Where equality of payloads is symmetric and transitive, so is equality of typed values.  A value
equals itself exactly when it holds no NaN and no payload that differs from itself.  As for untyped
values, symmetry and self-equality need that no key is there twice.
-/

namespace Recast.Typed

variable {Payload : Type} [BEq Payload]

/-! ## Well-formed values and values without NaN -/

def WellFormedHere : Typed Payload → Prop
  | .mapping entries => (Entries.keys entries).Nodup
  | .record held =>
      (Entries.keys held.values).Nodup ∧ (Value.map held.extras).WellFormed
  | .raw value => value.WellFormed
  | _ => True

/-- No mapping, record, or untyped map in the value has a key twice. -/
def WellFormed (value : Typed Payload) : Prop :=
  Everywhere parts WellFormedHere value

def NaNFreeHere : Typed Payload → Prop
  | .float number => number.isNaN = false
  | .record held => (Value.map held.extras).NaNFree
  | .raw value => value.NaNFree
  | _ => True

/-- The value holds no NaN at any depth, kept entries and raw values included. -/
def NaNFree (value : Typed Payload) : Prop :=
  Everywhere parts NaNFreeHere value

def PayloadReflexiveHere : Typed Payload → Prop
  | .custom _ payload => (payload == payload) = true
  | _ => True

/-- What each custom value in the value holds equals itself. -/
def PayloadsReflexive (value : Typed Payload) : Prop :=
  Everywhere parts PayloadReflexiveHere value

/-! ## Equality of collections and records -/

theorem equalItems_iff (left right : List (Typed Payload)) :
    equalItems left right = true ↔
      List.Forall₂ (fun first second => first.equal second = true) left right := by
  induction left generalizing right with
  | nil => cases right <;> simp [equalItems]
  | cons first rest inductionHypothesis =>
      cases right with
      | nil => simp [equalItems]
      | cons second others => simp [equalItems, inductionHypothesis]

theorem entriesAgree_iff (left right : Entries (Typed Payload)) :
    entriesAgree left right = true ↔
      ∀ entry ∈ left, ∃ other,
        right.lookup entry.1 = some other ∧ entry.2.equal other = true := by
  induction left with
  | nil => simp [entriesAgree]
  | cons entry rest inductionHypothesis =>
      obtain ⟨key, value⟩ := entry
      rw [entriesAgree, Bool.and_eq_true, inductionHypothesis, List.forall_mem_cons]
      apply and_congr_left
      intro _
      cases right.lookup key <;> simp

theorem equal_sequence_iff (left right : List (Typed Payload)) :
    (Typed.sequence left).equal (.sequence right) = true ↔
      List.Forall₂ (fun first second => first.equal second = true) left right := by
  rw [equal, equalItems_iff]

theorem equal_set_iff (left right : List (Typed Payload)) :
    (Typed.set left).equal (.set right) = true ↔
      List.Forall₂ (fun first second => first.equal second = true) left right := by
  rw [equal, equalItems_iff]

theorem equal_mapping_iff (left right : Entries (Typed Payload)) :
    (Typed.mapping left).equal (.mapping right) = true ↔
      Entries.Agree (fun first second => first.equal second = true) left right := by
  rw [equal, Bool.and_eq_true, beq_iff_eq, entriesAgree_iff]
  rfl

theorem equal_record_iff (left right : Record (Typed Payload)) :
    (Typed.record left).equal (.record right) = true ↔
      left.typeName = right.typeName ∧
        Entries.Agree (fun first second => first.equal second = true)
          left.values right.values ∧
        extrasEqual left.extras? right.extras? = true := by
  obtain ⟨recordType, values, extras?, layout⟩ := left
  rw [equal, Bool.and_eq_true, Bool.and_eq_true, Bool.and_eq_true, beq_iff_eq, beq_iff_eq,
    entriesAgree_iff, and_assoc]
  rfl

theorem extrasEqual_iff (left? right? : Option (Entries Value)) :
    extrasEqual left? right? = true ↔
      left?.isSome = right?.isSome ∧
        (Value.map (left?.getD [])).equal (.map (right?.getD [])) = true := by
  cases left? with
  | none =>
      cases right? with
      | none => simp [extrasEqual, Value.equal, Value.entriesAgree]
      | some right => simp [extrasEqual]
  | some left =>
      cases right? with
      | none => simp [extrasEqual]
      | some right =>
          rw [extrasEqual, Value.equalEntries_iff, Option.getD_some, Option.getD_some,
            Value.equal_map_iff]
          simp

/-! ## Laws -/

/-- A value equals itself exactly when it holds no NaN and no payload that differs from itself. -/
theorem equal_self_iff {value : Typed Payload} (wellFormed : value.WellFormed) :
    value.equal value = true ↔ value.NaNFree ∧ value.PayloadsReflexive := by
  induction value using partsInduction with
  | step value inductionHypothesis =>
      have partIff : ∀ part ∈ value.parts,
          part.equal part = true ↔ part.NaNFree ∧ part.PayloadsReflexive := fun part member =>
        inductionHypothesis part member (wellFormed.inside member)
      have bothIff : value.NaNFree ∧ value.PayloadsReflexive ↔
          (value.NaNFreeHere ∧ value.PayloadReflexiveHere) ∧
            ∀ part ∈ value.parts, part.equal part = true := by
        rw [forall₂_congr partIff, NaNFree, PayloadsReflexive, Everywhere.iff_and_forall,
          Everywhere.iff_and_forall, and_and_and_comm, ← forall₂_and]
        rfl
      rw [bothIff]
      cases value with
      | sequence items =>
          rw [equal_sequence_iff, List.forall₂_same]
          exact (and_iff_right ⟨trivial, trivial⟩).symm
      | set items =>
          rw [equal_set_iff, List.forall₂_same]
          exact (and_iff_right ⟨trivial, trivial⟩).symm
      | mapping entries =>
          rw [equal_mapping_iff, Entries.Agree.self_iff wellFormed.here, parts,
            List.forall_mem_map]
          exact (and_iff_right ⟨trivial, trivial⟩).symm
      | record held =>
          rw [equal_record_iff, Entries.Agree.self_iff wellFormed.here.1, extrasEqual_iff, parts,
            List.forall_mem_map]
          have extrasSelf := Value.equal_self_iff wellFormed.here.2
          constructor
          · rintro ⟨_, values, _, extras⟩
            exact ⟨⟨extrasSelf.1 extras, trivial⟩, values⟩
          · rintro ⟨⟨extras, _⟩, values⟩
            exact ⟨rfl, values, rfl, extrasSelf.2 extras⟩
      | float number =>
          rw [equal, Binary64.equal_self_iff]
          simp [parts, NaNFreeHere, PayloadReflexiveHere]
      | raw value =>
          refine (Value.equal_self_iff wellFormed.here).trans ?_
          simp [parts, NaNFreeHere, PayloadReflexiveHere]
      | _ => simp [equal, parts, NaNFreeHere, PayloadReflexiveHere]

theorem equal_symm [PartialEquivBEq Payload] {left right : Typed Payload}
    (wellFormed : left.WellFormed) (same : left.equal right = true) :
    right.equal left = true := by
  induction left using partsInduction generalizing right with
  | step left inductionHypothesis =>
      have partSymm : ∀ part ∈ left.parts, ∀ other,
          part.equal other = true → other.equal part = true := fun part member other =>
        inductionHypothesis part member (wellFormed.inside member)
      cases left with
      | sequence items =>
          cases right with
          | sequence others =>
              rw [equal_sequence_iff] at same ⊢
              exact Entries.forall₂_symm same partSymm
          | _ => simp [equal] at same
      | set items =>
          cases right with
          | set others =>
              rw [equal_set_iff] at same ⊢
              exact Entries.forall₂_symm same partSymm
          | _ => simp [equal] at same
      | mapping entries =>
          cases right with
          | mapping others =>
              rw [equal_mapping_iff] at same ⊢
              exact same.symm wellFormed.here fun entry member =>
                partSymm entry.2 (mem_parts_mapping member)
          | _ => simp [equal] at same
      | record held =>
          cases right with
          | record other =>
              rw [equal_record_iff, extrasEqual_iff] at same ⊢
              obtain ⟨sameName, sameValues, sameKind, sameExtras⟩ := same
              refine ⟨sameName.symm, ?_, sameKind.symm,
                Value.equal_symm wellFormed.here.2 sameExtras⟩
              exact sameValues.symm wellFormed.here.1 fun entry member =>
                partSymm entry.2 (mem_parts_record member)
          | _ => simp [equal] at same
      | float number =>
          cases right with
          | float other => exact Binary64.equal_symm same
          | _ => simp [equal] at same
      | raw value =>
          cases right with
          | raw other => exact Value.equal_symm wellFormed.here same
          | _ => simp [equal] at same
      | custom typeName payload =>
          cases right with
          | custom otherName otherPayload =>
              rw [equal, Bool.and_eq_true, beq_iff_eq] at same ⊢
              exact ⟨same.1.symm, BEq.symm same.2⟩
          | _ => simp [equal] at same
      | str text =>
          cases right with
          | str other => exact BEq.symm (α := String) same
          | _ => simp [equal] at same
      | _ => cases right <;> simp_all [equal]

theorem equal_trans [PartialEquivBEq Payload] {left middle right : Typed Payload}
    (sameLeft : left.equal middle = true) (sameRight : middle.equal right = true) :
    left.equal right = true := by
  induction left using partsInduction generalizing middle right with
  | step left inductionHypothesis =>
      cases left with
      | sequence items =>
          cases middle with
          | sequence between =>
              cases right with
              | sequence others =>
                  rw [equal_sequence_iff] at sameLeft sameRight ⊢
                  exact Entries.forall₂_trans sameLeft sameRight fun item member _ _ =>
                    inductionHypothesis item member
              | _ => simp [equal] at sameRight
          | _ => simp [equal] at sameLeft
      | set items =>
          cases middle with
          | set between =>
              cases right with
              | set others =>
                  rw [equal_set_iff] at sameLeft sameRight ⊢
                  exact Entries.forall₂_trans sameLeft sameRight fun item member _ _ =>
                    inductionHypothesis item member
              | _ => simp [equal] at sameRight
          | _ => simp [equal] at sameLeft
      | mapping entries =>
          cases middle with
          | mapping between =>
              cases right with
              | mapping others =>
                  rw [equal_mapping_iff] at sameLeft sameRight ⊢
                  exact sameLeft.trans sameRight fun entry member _ _ =>
                    inductionHypothesis entry.2 (mem_parts_mapping member)
              | _ => simp [equal] at sameRight
          | _ => simp [equal] at sameLeft
      | record held =>
          cases middle with
          | record between =>
              cases right with
              | record other =>
                  rw [equal_record_iff, extrasEqual_iff] at sameLeft sameRight ⊢
                  obtain ⟨nameLeft, valuesLeft, kindLeft, extrasLeft⟩ := sameLeft
                  obtain ⟨nameRight, valuesRight, kindRight, extrasRight⟩ := sameRight
                  refine ⟨nameLeft.trans nameRight, ?_, kindLeft.trans kindRight,
                    Value.equal_trans extrasLeft extrasRight⟩
                  exact valuesLeft.trans valuesRight fun entry member _ _ =>
                    inductionHypothesis entry.2 (mem_parts_record member)
              | _ => simp [equal] at sameRight
          | _ => simp [equal] at sameLeft
      | float number =>
          cases middle with
          | float between =>
              cases right with
              | float other => exact Binary64.equal_trans sameLeft sameRight
              | _ => simp [equal] at sameRight
          | _ => simp [equal] at sameLeft
      | raw value =>
          cases middle with
          | raw between =>
              cases right with
              | raw other => exact Value.equal_trans sameLeft sameRight
              | _ => simp [equal] at sameRight
          | _ => simp [equal] at sameLeft
      | custom typeName payload =>
          cases middle with
          | custom betweenName betweenPayload =>
              cases right with
              | custom otherName otherPayload =>
                  rw [equal, Bool.and_eq_true, beq_iff_eq] at sameLeft sameRight ⊢
                  exact ⟨sameLeft.1.trans sameRight.1, BEq.trans sameLeft.2 sameRight.2⟩
              | _ => simp [equal] at sameRight
          | _ => simp [equal] at sameLeft
      | missing =>
          cases middle with
          | missing => exact sameRight
          | _ => simp [equal] at sameLeft
      | bool truth =>
          cases middle with
          | bool between =>
              rw [equal, beq_iff_eq] at sameLeft
              rw [sameLeft]
              exact sameRight
          | _ => simp [equal] at sameLeft
      | int number =>
          cases middle with
          | int between =>
              rw [equal, beq_iff_eq] at sameLeft
              rw [sameLeft]
              exact sameRight
          | _ => simp [equal] at sameLeft
      | str text =>
          cases middle with
          | str between =>
              rw [equal, beq_iff_eq] at sameLeft
              rw [sameLeft]
              exact sameRight
          | _ => simp [equal] at sameLeft

/-- Whether values are equal can be told from values that they are equal to. -/
theorem equal_congr [PartialEquivBEq Payload] {left right leftOther rightOther : Typed Payload}
    (leftWellFormed : left.WellFormed) (rightWellFormed : right.WellFormed)
    (sameLeft : left.equal leftOther = true) (sameRight : right.equal rightOther = true) :
    left.equal right = leftOther.equal rightOther := by
  have leftBack := equal_symm leftWellFormed sameLeft
  have rightBack := equal_symm rightWellFormed sameRight
  rw [Bool.eq_iff_iff]
  exact ⟨fun same => equal_trans leftBack (equal_trans same sameRight),
    fun same => equal_trans sameLeft (equal_trans same rightBack)⟩

/-- Of items that are equal one by one, those that are kept are equal one by one. -/
theorem forall₂_keepDistinct [PartialEquivBEq Payload] {left right : List (Typed Payload)}
    (wellFormed : ∀ item ∈ left, item.WellFormed)
    (same : List.Forall₂ (fun first second => first.equal second = true) left right) :
    List.Forall₂ (fun first second => first.equal second = true)
      (keepDistinct [] left) (keepDistinct [] right) := by
  have pairEqual : ∀ pair ∈ left.zip right, pair.1.equal pair.2 = true :=
    fun pair member => List.forall₂_zip same member
  have pairWellFormed : ∀ pair ∈ left.zip right, pair.1.WellFormed :=
    fun pair member => wellFormed pair.1 (List.of_mem_zip member).1
  have leftOf : (left.zip right).map Prod.fst = left :=
    List.map_fst_zip (Nat.le_of_eq same.length_eq)
  have rightOf : (left.zip right).map Prod.snd = right :=
    List.map_snd_zip (Nat.le_of_eq same.length_eq.symm)
  obtain ⟨kept, within, keptLeft, keptRight⟩ :=
    exists_kept fun earlier earlierMember later laterMember =>
      equal_congr (pairWellFormed earlier earlierMember) (pairWellFormed later laterMember)
        (pairEqual earlier earlierMember) (pairEqual later laterMember)
  rw [leftOf] at keptLeft
  rw [rightOf] at keptRight
  rw [keptLeft, keptRight, List.forall₂_map_left_iff, List.forall₂_map_right_iff,
    List.forall₂_same]
  exact fun pair member => pairEqual pair (within pair member)

end Recast.Typed
