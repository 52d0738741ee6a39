import Recast.Proofs.Number.Extended
import Recast.Proofs.Value.Equality

/-!
# Equality of untyped values as numeric equality

Numbers are equal exactly if they stand for the same extended real, whichever way each is kept;
maps are equal exactly if they have the same keys and equal values under each.  Neither the bits of
a float nor the order of a map takes part.
-/

namespace Recast

namespace Value

/-! ## Numbers -/

def isNumber : Value → Bool
  | .integer _ | .float _ => true
  | _ => false

/-- The extended real that a number stands for, kept either way. -/
noncomputable def extended? : Value → Option EReal
  | .integer number => some (((number.toInt : Int) : ℝ) : EReal)
  | .float number => number.extended?
  | _ => none

/-- Numbers are equal exactly if they stand for the same extended real. -/
theorem equal_iff_extended? {left right : Value} (leftNumber : left.isNumber = true)
    (rightNumber : right.isNumber = true) :
    left.equal right = true ↔
      ∃ extended, left.extended? = some extended ∧ right.extended? = some extended := by
  cases left with
  | integer number =>
      cases right with
      | integer other =>
          rw [equal, beq_iff_eq, ← Int64.toInt_inj]
          simp only [extended?, Option.some.injEq, exists_eq_left', EReal.coe_eq_coe_iff,
            Int.cast_inj]
          exact eq_comm
      | float other =>
          rw [equal, beq_iff_eq, Binary64.toInt?_eq_some_iff_extended?]
          simp [extended?]
      | _ => simp [isNumber] at rightNumber
  | float number =>
      cases right with
      | integer other =>
          rw [equal, beq_iff_eq, Binary64.toInt?_eq_some_iff_extended?]
          simp [extended?]
      | float other => exact Binary64.equal_iff_extended? number other
      | _ => simp [isNumber] at rightNumber
  | _ => simp [isNumber] at leftNumber

/-- Exactly the NaNs among the numbers stand for no extended real. -/
theorem exists_extended?_iff {value : Value} (number : value.isNumber = true) :
    (∃ extended, value.extended? = some extended) ↔ value.isNaN = false := by
  cases value with
  | integer integer => exact iff_of_true ⟨_, rfl⟩ rfl
  | float float => exact Binary64.exists_extended?_iff float
  | _ => simp [isNumber] at number

/-! ## The laws together -/

/-- Equality is symmetric and transitive, and reflexive exactly where there is no NaN; on numbers it
is equality of extended reals, and on maps equality under each key. -/
theorem numeric_equality_laws :
    (∀ left right : Value, left.WellFormed → (left == right) = true → (right == left) = true) ∧
    (∀ left middle right : Value,
      (left == middle) = true → (middle == right) = true → (left == right) = true) ∧
    (∀ value : Value, value.WellFormed → ((value == value) = true ↔ value.NaNFree)) ∧
    (∀ left right : Value, left.isNumber = true → right.isNumber = true →
      ((left == right) = true ↔
        left.isNaN = false ∧ right.isNaN = false ∧
          ∃ extended, left.extended? = some extended ∧ right.extended? = some extended)) ∧
    (∀ left right : Entries Value,
      (Value.map left).WellFormed → (Value.map right).WellFormed →
      ((Value.map left == .map right) = true ↔
        (∀ key, key ∈ Entries.keys left ↔ key ∈ Entries.keys right) ∧
          ∀ key value other, left.lookup key = some value → right.lookup key = some other →
            (value == other) = true)) := by
  refine ⟨?_, ?_, ?_, ?_, ?_⟩
  · intro left right wellFormed same
    exact equal_symm wellFormed same
  · intro left middle right sameLeft sameRight
    exact equal_trans sameLeft sameRight
  · intro value wellFormed
    exact equal_self_iff wellFormed
  · intro left right leftNumber rightNumber
    refine (equal_iff_extended? leftNumber rightNumber).trans ?_
    constructor
    · rintro ⟨extended, leftDenoted, rightDenoted⟩
      exact ⟨(exists_extended?_iff leftNumber).1 ⟨extended, leftDenoted⟩,
        (exists_extended?_iff rightNumber).1 ⟨extended, rightDenoted⟩,
        extended, leftDenoted, rightDenoted⟩
    · rintro ⟨_, _, denoted⟩
      exact denoted
  · intro left right leftWellFormed rightWellFormed
    exact (equal_map_iff left right).trans
      (Entries.Agree.iff_same_keys leftWellFormed.1 rightWellFormed.1)

end Value

namespace Sample

/-- Two to the fifty-third: the integer behind it is no float. -/
def threshold : Int64 :=
  9007199254740992

/-- The float that the threshold is. -/
def thresholdFloat : Binary64 :=
  ⟨0x4340000000000000⟩

/-- Two readings of one document: the keys in another order, the numbers kept the other way. -/
def survey : Value :=
  .map [("low", .float ⟨0x8000000000000000⟩), ("high", .integer threshold)]

def resurvey : Value :=
  .map [("high", .float thresholdFloat), ("low", .integer 0)]

/-- The surveys are equal either way around, so neither holds a NaN; the integer behind the
threshold stands for another number than the float. -/
theorem numeric_equality_survey :
    (survey == resurvey) = true ∧ (resurvey == survey) = true ∧
      survey.NaNFree ∧
      Value.extended? (.integer threshold) = Value.extended? (.float thresholdFloat) ∧
      (Value.integer (threshold + 1) == .float thresholdFloat) = false ∧
      ¬ (∃ extended, Value.extended? (.integer (threshold + 1)) = some extended ∧
        Value.extended? (.float thresholdFloat) = some extended) := by
  have wellFormed : survey.WellFormed := by
    simp [survey, Value.WellFormed, Value.EntriesWellFormed, Entries.keys]
  obtain ⟨symmetric, transitive, reflexive, numbers, _⟩ := Value.numeric_equality_laws
  have same : (survey == resurvey) = true := rfl
  have turned := symmetric _ _ wellFormed same
  have atThreshold : (Value.integer threshold == .float thresholdFloat) = true := rfl
  obtain ⟨_, _, extended, integerIs, floatIs⟩ := (numbers _ _ rfl rfl).1 atThreshold
  have behind : (Value.integer (threshold + 1) == .float thresholdFloat) = false := rfl
  refine ⟨same, turned, (reflexive _ wellFormed).1 (transitive _ _ _ same turned),
    integerIs.trans floatIs.symm, behind, ?_⟩
  intro denoted
  have equal := (numbers (.integer (threshold + 1)) (.float thresholdFloat) rfl rfl).2
    ⟨rfl, rfl, denoted⟩
  rw [behind] at equal
  contradiction

end Sample

end Recast
