import Mathlib.Data.EReal.Basic
import Recast.Proofs.Number.Widening

/-!
# The extended reals that binary floating-point numbers stand for

A number other than NaN stands for an extended real: its sign times its significand times a power
of two, or an infinity.  Equality of numbers is equality of what they stand for.  Both reduce to
whole units with a sign, which the fields of the word determine up to the sign of zero.
-/

namespace Recast.Binary64

/-! ## The real number of a finite word -/

/-- The power of two of a significand.  Below the smallest stored exponent it stays the same. -/
def exponent (number : Binary64) : Int :=
  if number.storedExponent = 0 then -1074 else (number.storedExponent : Int) - 1075

/-- The real number that a finite number stands for. -/
noncomputable def real (number : Binary64) : ℝ :=
  (if number.isNegative then -1 else 1) * number.significand * (2 : ℝ) ^ number.exponent

/-- The extended real that a number stands for; a NaN stands for none. -/
noncomputable def extended? (number : Binary64) : Option EReal :=
  if number.isNaN then none
  else if number.isFinite then some (number.real : EReal)
  else some (if number.isNegative then ⊥ else ⊤)

theorem extended?_of_isFinite {number : Binary64} (finite : number.isFinite = true) :
    number.extended? = some (number.real : EReal) := by
  rw [extended?, isNaN_of_isFinite finite, if_neg Bool.false_ne_true, if_pos finite]

theorem extended?_of_not_isFinite {number : Binary64} (notNaN : number.isNaN = false)
    (infinite : ¬ number.isFinite = true) :
    number.extended? = some (if number.isNegative then ⊥ else ⊤) := by
  rw [extended?, notNaN, if_neg Bool.false_ne_true, if_neg infinite]

/-- Exactly the NaNs stand for no extended real. -/
theorem exists_extended?_iff (number : Binary64) :
    (∃ extended, number.extended? = some extended) ↔ number.isNaN = false := by
  cases isNaN : number.isNaN with
  | true => simp [extended?, isNaN]
  | false =>
      refine iff_of_true ?_ rfl
      by_cases finite : number.isFinite = true
      · exact ⟨_, extended?_of_isFinite finite⟩
      · exact ⟨_, extended?_of_not_isFinite isNaN finite⟩

/-! ## The real number in units -/

theorem two_zpow_exponent (number : Binary64) :
    (2 : ℝ) ^ number.exponent * 2 ^ unitExponent = 2 ^ (number.storedExponent - 1) := by
  rw [← zpow_natCast (2 : ℝ) unitExponent, ← zpow_natCast (2 : ℝ) (number.storedExponent - 1),
    ← zpow_add₀ two_ne_zero]
  congr 1
  rw [exponent, unitExponent]
  split <;> omega

/-- The real number in units is the signed count of units. -/
theorem real_mul_unit (number : Binary64) :
    number.real * 2 ^ unitExponent = (number.signedUnits : ℝ) := by
  have size : (number.units : ℝ) =
      number.significand * ((2 : ℝ) ^ number.exponent * 2 ^ unitExponent) := by
    rw [two_zpow_exponent, units_eq, Nat.cast_mul, Nat.cast_pow, Nat.cast_ofNat]
  rw [real, signedUnits, mul_assoc, mul_assoc, ← size]
  split
  · rw [neg_one_mul, Int.cast_neg, Int.cast_natCast]
  · rw [one_mul, Int.cast_natCast]

theorem unit_ne_zero : (2 : ℝ) ^ unitExponent ≠ 0 :=
  pow_ne_zero _ two_ne_zero

theorem real_eq_iff (left right : Binary64) :
    left.real = right.real ↔ left.signedUnits = right.signedUnits := by
  rw [← mul_left_inj' unit_ne_zero, real_mul_unit, real_mul_unit, Int.cast_inj]

theorem real_eq_intCast_iff (number : Binary64) (integer : Int) :
    number.real = (integer : ℝ) ↔ number.signedUnits = integer * (unitsOfOne : Int) := by
  have unit : (2 : ℝ) ^ unitExponent = ((unitsOfOne : Int) : ℝ) := by
    rw [unitsOfOne_eq, Int.cast_natCast, Nat.cast_pow, Nat.cast_ofNat]
  rw [← mul_left_inj' unit_ne_zero, real_mul_unit, unit, ← Int.cast_mul, Int.cast_inj]

/-! ## Equality is equality of extended reals -/

theorem real_of_isZero {number : Binary64} (zero : number.isZero = true) : number.real = 0 := by
  have noUnits := (isZero_iff_units_eq_zero number).1 zero
  rw [← Int.cast_zero, real_eq_intCast_iff, zero_mul, ← Int.natAbs_eq_zero, natAbs_signedUnits,
    noUnits]

/-- Infinities of the same sign are the same word. -/
theorem eq_of_not_isFinite {left right : Binary64} (leftNumber : left.isNaN = false)
    (rightNumber : right.isNaN = false) (leftInfinite : ¬ left.isFinite = true)
    (rightInfinite : ¬ right.isFinite = true) (sameSign : left.isNegative = right.isNegative) :
    left = right := by
  simp only [isFinite, bne_iff_ne, not_not] at leftInfinite rightInfinite
  simp only [isNaN, leftInfinite, rightInfinite, beq_self_eq_true, Bool.true_and,
    bne_eq_false_iff_eq] at leftNumber rightNumber
  exact eq_of_fields sameSign (leftInfinite.trans rightInfinite.symm)
    (leftNumber.trans rightNumber.symm)

theorem extended?_eq_of_equal {left right : Binary64} (same : left.equal right = true) :
    left.extended? = right.extended? := by
  obtain ⟨_, _, rfl | ⟨leftZero, rightZero⟩⟩ := (equal_iff left right).1 same
  · rfl
  · rw [extended?_of_isFinite (isFinite_of_isZero leftZero),
      extended?_of_isFinite (isFinite_of_isZero rightZero), real_of_isZero leftZero,
      real_of_isZero rightZero]

theorem eq_or_isZero_of_extended?_eq {left right : Binary64} (leftNumber : left.isNaN = false)
    (rightNumber : right.isNaN = false) (same : left.extended? = right.extended?) :
    left = right ∨ left.isZero = true ∧ right.isZero = true := by
  by_cases leftFinite : left.isFinite = true
  · rw [extended?_of_isFinite leftFinite] at same
    by_cases rightFinite : right.isFinite = true
    · rw [extended?_of_isFinite rightFinite, Option.some.injEq, EReal.coe_eq_coe_iff,
        real_eq_iff] at same
      exact eq_or_isZero_of_signedUnits_eq same
    · rw [extended?_of_not_isFinite rightNumber rightFinite, Option.some.injEq] at same
      split at same
      · exact absurd same (EReal.coe_ne_bot _)
      · exact absurd same (EReal.coe_ne_top _)
  · rw [extended?_of_not_isFinite leftNumber leftFinite] at same
    by_cases rightFinite : right.isFinite = true
    · rw [extended?_of_isFinite rightFinite, Option.some.injEq] at same
      split at same
      · exact absurd same.symm (EReal.coe_ne_bot _)
      · exact absurd same.symm (EReal.coe_ne_top _)
    · rw [extended?_of_not_isFinite rightNumber rightFinite, Option.some.injEq] at same
      refine .inl (eq_of_not_isFinite leftNumber rightNumber leftFinite rightFinite ?_)
      cases leftSign : left.isNegative <;> cases rightSign : right.isNegative <;>
        simp_all

/-- Numbers are equal exactly if they stand for the same extended real. -/
theorem equal_iff_extended? (left right : Binary64) :
    left.equal right = true ↔
      ∃ extended, left.extended? = some extended ∧ right.extended? = some extended := by
  constructor
  · intro same
    obtain ⟨leftNumber, _⟩ := (equal_iff left right).1 same
    obtain ⟨extended, denoted⟩ := (exists_extended?_iff left).2 leftNumber
    exact ⟨extended, denoted, extended?_eq_of_equal same ▸ denoted⟩
  · rintro ⟨extended, leftDenoted, rightDenoted⟩
    have leftNumber := (exists_extended?_iff left).1 ⟨extended, leftDenoted⟩
    have rightNumber := (exists_extended?_iff right).1 ⟨extended, rightDenoted⟩
    exact (equal_iff left right).2 ⟨leftNumber, rightNumber,
      eq_or_isZero_of_extended?_eq leftNumber rightNumber (leftDenoted.trans rightDenoted.symm)⟩

/-! ## Integers -/

/-- A number is an integer exactly if it stands for it. -/
theorem toInt?_eq_some_iff_extended? (number : Binary64) (integer : Int) :
    number.toInt? = some integer ↔ number.extended? = some (((integer : ℝ)) : EReal) := by
  rw [toInt?_eq_some_iff, ← signedUnits_eq_mul_iff, ← real_eq_intCast_iff]
  by_cases finite : number.isFinite = true
  · rw [extended?_of_isFinite finite, Option.some.injEq, EReal.coe_eq_coe_iff]
    exact and_iff_right finite
  · refine iff_of_false (fun whole => finite whole.1) fun denoted => ?_
    have notNaN := (exists_extended?_iff number).1 ⟨_, denoted⟩
    rw [extended?_of_not_isFinite notNaN finite, Option.some.injEq] at denoted
    split at denoted
    · exact EReal.coe_ne_bot _ denoted.symm
    · exact EReal.coe_ne_top _ denoted.symm

end Recast.Binary64
