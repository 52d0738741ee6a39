import Mathlib.Algebra.Group.Nat.Defs
import Recast.Number.Binary64

/-!
# Equality of binary floating-point numbers

A finite number is determined by its sign and its size in units, up to the sign of zero.  So
numbers that are the same integer are equal, which makes equality between integers and
floating-point numbers transitive.
-/

namespace Recast.Binary64

/-! ## Fields of the word -/

theorem fraction_lt (number : Binary64) : number.fraction < fractionCount :=
  Nat.mod_lt _ (by decide)

theorem eq_of_fields {left right : Binary64}
    (sameSign : left.isNegative = right.isNegative)
    (sameExponent : left.storedExponent = right.storedExponent)
    (sameFraction : left.fraction = right.fraction) :
    left = right := by
  have leftBound := left.bits.toNat_lt
  have rightBound := right.bits.toNat_lt
  have sameSide : signBit ≤ left.bits.toNat ↔ signBit ≤ right.bits.toNat :=
    decide_eq_decide.1 sameSign
  have sameWord : left.bits.toNat = right.bits.toNat := by
    simp only [storedExponent, fraction, signBit, exponentCount, fractionCount]
      at sameSide sameExponent sameFraction
    omega
  cases left
  cases right
  exact congrArg Binary64.mk (UInt64.toNat_inj.1 sameWord)

/-! ## Size determines exponent and fraction -/

theorem units_eq (number : Binary64) :
    number.units = number.significand * 2 ^ (number.storedExponent - 1) := by
  rw [units, Nat.shiftLeft_eq]

theorem significand_lt (number : Binary64) : number.significand < 2 * fractionCount := by
  have bound := number.fraction_lt
  rw [significand]
  split <;> omega

theorem fractionCount_le_significand {number : Binary64} (normal : number.storedExponent ≠ 0) :
    fractionCount ≤ number.significand := by
  rw [significand, if_neg normal]
  exact Nat.le_add_right _ _

theorem units_lt_of_storedExponent_lt {left right : Binary64}
    (smaller : left.storedExponent < right.storedExponent) :
    left.units < right.units := by
  have normal : right.storedExponent ≠ 0 := Nat.ne_zero_of_lt smaller
  by_cases subnormal : left.storedExponent = 0
  · calc
      left.units = left.fraction := by
          rw [units_eq, significand, if_pos subnormal, subnormal, Nat.pow_zero, Nat.mul_one]
      _ < fractionCount := left.fraction_lt
      _ ≤ right.significand := fractionCount_le_significand normal
      _ ≤ right.significand * 2 ^ (right.storedExponent - 1) :=
          Nat.le_mul_of_pos_right _ (Nat.two_pow_pos _)
      _ = right.units := right.units_eq.symm
  · have oneAbove :
        2 ^ left.storedExponent = 2 * 2 ^ (left.storedExponent - 1) := by
      rw [← Nat.pow_succ']
      congr 1
      omega
    have powers : 2 ^ left.storedExponent ≤ 2 ^ (right.storedExponent - 1) :=
      Nat.pow_le_pow_right (by decide) (by omega)
    calc
      left.units = left.significand * 2 ^ (left.storedExponent - 1) := left.units_eq
      _ < (2 * fractionCount) * 2 ^ (left.storedExponent - 1) :=
          Nat.mul_lt_mul_of_pos_right left.significand_lt (Nat.two_pow_pos _)
      _ = fractionCount * 2 ^ left.storedExponent := by
          rw [oneAbove, Nat.mul_comm 2 fractionCount, Nat.mul_assoc]
      _ ≤ right.significand * 2 ^ (right.storedExponent - 1) :=
          Nat.mul_le_mul (fractionCount_le_significand normal) powers
      _ = right.units := right.units_eq.symm

theorem storedExponent_eq_of_units_eq {left right : Binary64}
    (sameSize : left.units = right.units) :
    left.storedExponent = right.storedExponent := by
  rcases Nat.lt_trichotomy left.storedExponent right.storedExponent with less | same | greater
  · exact absurd sameSize (Nat.ne_of_lt (units_lt_of_storedExponent_lt less))
  · exact same
  · exact absurd sameSize (Nat.ne_of_gt (units_lt_of_storedExponent_lt greater))

theorem fraction_eq_of_units_eq {left right : Binary64} (sameSize : left.units = right.units) :
    left.fraction = right.fraction := by
  have sameExponent := storedExponent_eq_of_units_eq sameSize
  rw [units_eq, units_eq, sameExponent] at sameSize
  have sameSignificand := Nat.eq_of_mul_eq_mul_right (Nat.two_pow_pos _) sameSize
  rw [significand, significand, sameExponent] at sameSignificand
  split at sameSignificand
  · exact sameSignificand
  · exact Nat.add_left_cancel sameSignificand

/-! ## Zeros -/

theorem isZero_iff_units_eq_zero (number : Binary64) :
    number.isZero = true ↔ number.units = 0 := by
  rw [isZero, Bool.and_eq_true, beq_iff_eq, beq_iff_eq, units_eq]
  constructor
  · rintro ⟨exponentZero, fractionZero⟩
    rw [significand, if_pos exponentZero, fractionZero, Nat.zero_mul]
  · intro sizeZero
    have significandZero : number.significand = 0 := by
      rcases Nat.mul_eq_zero.1 sizeZero with isZero | powerZero
      · exact isZero
      · exact absurd powerZero (Nat.ne_of_gt (Nat.two_pow_pos _))
    rw [significand] at significandZero
    split at significandZero
    · next exponentZero => exact ⟨exponentZero, significandZero⟩
    · simp [fractionCount] at significandZero

theorem isFinite_of_isZero {number : Binary64} (zero : number.isZero = true) :
    number.isFinite = true := by
  rw [isZero, Bool.and_eq_true, beq_iff_eq, beq_iff_eq] at zero
  simp [isFinite, zero.1]

/-! ## Whole units with a sign -/

/-- The number one is this power of two, in units. -/
def unitExponent : Nat :=
  1074

theorem unitsOfOne_eq : unitsOfOne = 2 ^ unitExponent :=
  Nat.one_shiftLeft unitExponent

/-- The whole units of a finite number, with its sign. -/
def signedUnits (number : Binary64) : Int :=
  if number.isNegative then -(number.units : Int) else number.units

theorem natAbs_signedUnits (number : Binary64) : number.signedUnits.natAbs = number.units := by
  rw [signedUnits]
  split
  · rw [Int.natAbs_neg, Int.natAbs_natCast]
  · rw [Int.natAbs_natCast]

/-- Words with the same signed units are the same, or both are zero. -/
theorem eq_or_isZero_of_signedUnits_eq {left right : Binary64}
    (same : left.signedUnits = right.signedUnits) :
    left = right ∨ left.isZero = true ∧ right.isZero = true := by
  have sameSize : left.units = right.units := by
    rw [← natAbs_signedUnits, same, natAbs_signedUnits]
  by_cases sameSign : left.isNegative = right.isNegative
  · exact .inl <| eq_of_fields sameSign (storedExponent_eq_of_units_eq sameSize)
      (fraction_eq_of_units_eq sameSize)
  · -- Of opposite signs the counts are the same only if both are zero.
    have noUnits : right.units = 0 := by
      rw [signedUnits, signedUnits, sameSize] at same
      by_cases leftNegative : left.isNegative = true
      · have rightPositive : ¬ right.isNegative = true := fun both =>
          sameSign (leftNegative.trans both.symm)
        rw [if_pos leftNegative, if_neg rightPositive] at same
        omega
      · have rightNegative : right.isNegative = true := by
          rw [Bool.not_eq_true] at leftNegative
          rw [leftNegative] at sameSign
          exact Bool.ne_false_iff.1 (Ne.symm sameSign)
        rw [if_neg leftNegative, if_pos rightNegative] at same
        omega
    exact .inr ⟨(isZero_iff_units_eq_zero left).2 (sameSize.trans noUnits),
      (isZero_iff_units_eq_zero right).2 noUnits⟩

/-! ## Equality -/

theorem equal_iff (left right : Binary64) :
    left.equal right = true ↔
      left.isNaN = false ∧ right.isNaN = false ∧
        (left = right ∨ left.isZero = true ∧ right.isZero = true) := by
  simp [equal, and_assoc]

theorem equal_self_iff (number : Binary64) :
    number.equal number = true ↔ number.isNaN = false := by
  simp [equal]

theorem equal_symm {left right : Binary64} (same : left.equal right = true) :
    right.equal left = true := by
  obtain ⟨leftNumber, rightNumber, sameOrZero⟩ := (equal_iff left right).1 same
  refine (equal_iff right left).2 ⟨rightNumber, leftNumber, ?_⟩
  rcases sameOrZero with rfl | ⟨leftZero, rightZero⟩
  · exact .inl rfl
  · exact .inr ⟨rightZero, leftZero⟩

theorem equal_trans {left middle right : Binary64} (sameLeft : left.equal middle = true)
    (sameRight : middle.equal right = true) :
    left.equal right = true := by
  obtain ⟨leftNumber, _, leftCase⟩ := (equal_iff left middle).1 sameLeft
  obtain ⟨_, rightNumber, rightCase⟩ := (equal_iff middle right).1 sameRight
  refine (equal_iff left right).2 ⟨leftNumber, rightNumber, ?_⟩
  rcases leftCase with rfl | ⟨leftZero, middleZero⟩
  · exact rightCase
  · rcases rightCase with rfl | ⟨_, rightZero⟩
    · exact .inr ⟨leftZero, middleZero⟩
    · exact .inr ⟨leftZero, rightZero⟩

/-! ## Integers -/

theorem isNaN_of_isFinite {number : Binary64} (finite : number.isFinite = true) :
    number.isNaN = false := by
  rw [isFinite, bne_iff_ne] at finite
  simp [isNaN, finite]

theorem toInt?_eq_some_iff (number : Binary64) (integer : Int) :
    number.toInt? = some integer ↔
      number.isFinite = true ∧ number.units % unitsOfOne = 0 ∧
        integer = if number.isNegative then -((number.units / unitsOfOne : Nat) : Int)
          else ((number.units / unitsOfOne : Nat) : Int) := by
  rw [toInt?]
  split
  · next whole =>
      rw [Bool.and_eq_true, beq_iff_eq] at whole
      constructor
      · intro found
        exact ⟨whole.1, whole.2, (Option.some.inj found).symm⟩
      · rintro ⟨_, _, value⟩
        exact congrArg some value.symm
  · next notWhole =>
      rw [Bool.and_eq_true, beq_iff_eq] at notWhole
      constructor
      · intro impossible
        contradiction
      · rintro ⟨finite, whole, _⟩
        exact absurd ⟨finite, whole⟩ notWhole

/-- The signed units are a multiple of one exactly if the units are. -/
theorem signedUnits_eq_mul_iff (number : Binary64) (integer : Int) :
    number.signedUnits = integer * (unitsOfOne : Int) ↔
      number.units % unitsOfOne = 0 ∧
        integer = if number.isNegative then -((number.units / unitsOfOne : Nat) : Int)
          else ((number.units / unitsOfOne : Nat) : Int) := by
  have positive : 0 < unitsOfOne := by
    rw [unitsOfOne_eq]
    exact Nat.two_pow_pos _
  generalize unitsOfOne = one at positive
  constructor
  · intro multiple
    have size : number.units = integer.natAbs * one := by
      rw [← natAbs_signedUnits, multiple, Int.natAbs_mul, Int.natAbs_natCast]
    rw [size, Nat.mul_mod_left, Nat.mul_div_cancel _ positive]
    refine ⟨rfl, ?_⟩
    rw [signedUnits, size] at multiple
    have cancel : ((one : Nat) : Int) ≠ 0 := Int.natCast_ne_zero.2 (Nat.ne_of_gt positive)
    split
    · next negative =>
        rw [if_pos negative, Int.natCast_mul, ← Int.neg_mul] at multiple
        exact (Int.eq_of_mul_eq_mul_right cancel multiple).symm
    · next positiveSign =>
        rw [if_neg positiveSign, Int.natCast_mul] at multiple
        exact (Int.eq_of_mul_eq_mul_right cancel multiple).symm
  · rintro ⟨remainder, rfl⟩
    have exact : (number.units / one) * one = number.units :=
      Nat.div_mul_cancel (Nat.dvd_of_mod_eq_zero remainder)
    rw [signedUnits]
    split
    · rw [Int.neg_mul, ← Int.natCast_mul, exact]
    · rw [← Int.natCast_mul, exact]

theorem signedUnits_of_toInt? {number : Binary64} {integer : Int}
    (whole : number.toInt? = some integer) :
    number.signedUnits = integer * (unitsOfOne : Int) :=
  (signedUnits_eq_mul_iff number integer).2 ((toInt?_eq_some_iff number integer).1 whole).2

/-- A number that is an integer has the size of the integer. -/
theorem units_of_toInt? {number : Binary64} {integer : Int}
    (whole : number.toInt? = some integer) :
    number.units = integer.natAbs * unitsOfOne := by
  rw [← natAbs_signedUnits, signedUnits_of_toInt? whole, Int.natAbs_mul, Int.natAbs_natCast]

theorem nonpos_of_isNegative {number : Binary64} {integer : Int}
    (whole : number.toInt? = some integer) (negative : number.isNegative = true) :
    integer ≤ 0 := by
  obtain ⟨_, _, value⟩ := (toInt?_eq_some_iff number integer).1 whole
  rw [value, if_pos negative]
  exact Int.neg_nonpos_of_nonneg (Int.natCast_nonneg _)

theorem nonneg_of_not_isNegative {number : Binary64} {integer : Int}
    (whole : number.toInt? = some integer) (positive : ¬ number.isNegative = true) :
    0 ≤ integer := by
  obtain ⟨_, _, value⟩ := (toInt?_eq_some_iff number integer).1 whole
  rw [value, if_neg positive]
  exact Int.natCast_nonneg _

/-- Numbers that are the same integer are equal. -/
theorem equal_of_toInt?_eq {left right : Binary64} {integer : Int}
    (leftWhole : left.toInt? = some integer) (rightWhole : right.toInt? = some integer) :
    left.equal right = true := by
  have leftFinite := ((toInt?_eq_some_iff left integer).1 leftWhole).1
  have rightFinite := ((toInt?_eq_some_iff right integer).1 rightWhole).1
  refine (equal_iff left right).2
    ⟨isNaN_of_isFinite leftFinite, isNaN_of_isFinite rightFinite, ?_⟩
  apply eq_or_isZero_of_signedUnits_eq
  rw [signedUnits_of_toInt? leftWhole, signedUnits_of_toInt? rightWhole]

theorem toInt?_of_isZero {number : Binary64} (zero : number.isZero = true) :
    number.toInt? = some 0 := by
  rw [toInt?_eq_some_iff, (isZero_iff_units_eq_zero number).1 zero]
  exact ⟨isFinite_of_isZero zero, Nat.zero_mod _, by simp⟩

/-- Equal numbers are the same integer, if they are one. -/
theorem toInt?_eq_of_equal {left right : Binary64} (same : left.equal right = true) :
    left.toInt? = right.toInt? := by
  obtain ⟨_, _, sameOrZero⟩ := (equal_iff left right).1 same
  rcases sameOrZero with rfl | ⟨leftZero, rightZero⟩
  · rfl
  · rw [toInt?_of_isZero leftZero, toInt?_of_isZero rightZero]

end Recast.Binary64
