import Recast.Proofs.Number.Widening

/-!
# Which integers are binary floating-point numbers

An integer is widened without loss exactly if it has at most fifty-three significant bits.  All
integers of up to fifty-three bits have, and beyond them only the multiples of a power of two that
is large enough.
-/

namespace Recast.Binary64

variable {integer : Int}

/-- The size of the integer is a significand, of fifty-three bits, times a power of two. -/
def FitsSignificand (integer : Int) : Prop :=
  ∃ significand exponent, integer.natAbs = significand * 2 ^ exponent ∧ significand < 2 ^ 53

theorem two_mul_fractionCount : 2 * fractionCount = 2 ^ 53 :=
  rfl

theorem fractionCount_eq : fractionCount = 2 ^ 52 :=
  rfl

/-- Integers of up to fifty-three bits fit. -/
theorem fitsSignificand_of_lt (small : integer.natAbs < 2 ^ 53) : FitsSignificand integer :=
  ⟨integer.natAbs, 0, (Nat.mul_one _).symm, small⟩

/-! ## Widening loses nothing -/

/-- The fields of a word that is put together from them. -/
theorem fields_ofInt {exponent fraction : Nat}
    (word : bitsOfNat integer.natAbs = exponent * fractionCount + fraction)
    (exponentBound : exponent < 2047) (fractionBound : fraction < fractionCount) :
    (ofInt integer).storedExponent = exponent ∧ (ofInt integer).fraction = fraction ∧
      ((ofInt integer).isNegative = true ↔ integer < 0) := by
  have bits : (ofInt integer).bits.toNat =
      exponent * fractionCount + fraction + if integer < 0 then signBit else 0 := by
    rw [ofInt, word, UInt64.toNat_ofNat', Nat.mod_eq_of_lt]
    rw [fractionCount] at fractionBound ⊢
    rw [signBit]
    split <;> omega
  rw [isNegative, decide_eq_true_iff, storedExponent, Binary64.fraction, bits]
  rw [fractionCount] at fractionBound ⊢
  rw [signBit, exponentCount]
  split <;> omega

/-- Shifted so that its leading bit is the fifty-third, an integer that fits is a significand. -/
theorem exists_normalized (nonzero : integer ≠ 0) (fits : FitsSignificand integer) :
    ∃ normalized,
      integer.natAbs * fractionCount = normalized * 2 ^ integer.natAbs.log2 ∧
        fractionCount ≤ normalized ∧ normalized < 2 * fractionCount := by
  obtain ⟨significand, exponent, size, bound⟩ := fits
  have significandNonzero : significand ≠ 0 := by
    rintro rfl
    exact Int.natAbs_ne_zero.2 nonzero (size.trans (Nat.zero_mul _))
  have leading : significand.log2 < 53 := (Nat.log2_lt significandNonzero).2 bound
  obtain ⟨shift, total⟩ : ∃ shift, significand.log2 + shift = 52 :=
    ⟨52 - significand.log2, by omega⟩
  have exponentOfInteger : integer.natAbs.log2 = significand.log2 + exponent := by
    rw [size, log2_mul_two_pow significandNonzero]
  refine ⟨significand * 2 ^ shift, ?_, ?_, ?_⟩
  · rw [exponentOfInteger, size, fractionCount_eq, ← total, Nat.pow_add, Nat.pow_add,
      Nat.mul_comm (2 ^ significand.log2), ← Nat.mul_assoc, Nat.mul_right_comm _ (2 ^ exponent),
      Nat.mul_assoc, Nat.mul_comm (2 ^ exponent)]
  · rw [fractionCount_eq, ← total, Nat.pow_add]
    exact Nat.mul_le_mul_right _ (Nat.log2_self_le significandNonzero)
  · have oneMore : 2 * fractionCount = 2 ^ (significand.log2 + 1) * 2 ^ shift := by
      rw [← Nat.pow_add, Nat.add_right_comm, total, two_mul_fractionCount]
    rw [oneMore]
    exact Nat.mul_lt_mul_of_pos_right Nat.lt_log2_self (Nat.two_pow_pos shift)

/-- Widening keeps the size of an integer that fits. -/
theorem units_ofInt (small : integer.natAbs < 2 ^ 64) (nonzero : integer ≠ 0)
    (fits : FitsSignificand integer) :
    (ofInt integer).isFinite = true ∧
      (ofInt integer).units = integer.natAbs * unitsOfOne ∧
        ((ofInt integer).isNegative = true ↔ integer < 0) := by
  obtain ⟨normalized, shifted, atLeast, below⟩ := exists_normalized nonzero fits
  have sizeNonzero : integer.natAbs ≠ 0 := Int.natAbs_ne_zero.2 nonzero
  have leading : integer.natAbs.log2 < 64 := (Nat.log2_lt sizeNonzero).2 small
  have word : bitsOfNat integer.natAbs =
      (integer.natAbs.log2 + 1023) * fractionCount + (normalized - fractionCount) := by
    rw [bitsOfNat, if_neg sizeNonzero, if_pos (by omega), Nat.one_shiftLeft, shifted,
      roundedQuotient_mul_self _ _ (Nat.two_pow_pos _)]
    rw [fractionCount] at atLeast ⊢
    omega
  obtain ⟨exponent, fraction, sign⟩ := fields_ofInt word (by omega) (by omega)
  refine ⟨?_, ?_, sign⟩
  · rw [isFinite, bne_iff_ne, exponent]
    omega
  · have significandEq : (ofInt integer).significand = normalized := by
      rw [significand, if_neg (by omega), fraction, Nat.add_sub_cancel' atLeast]
    obtain ⟨rest, splitUnit⟩ : ∃ rest, unitExponent = 52 + rest := ⟨1022, rfl⟩
    have splitExponent : (ofInt integer).storedExponent - 1 = integer.natAbs.log2 + rest := by
      rw [unitExponent] at splitUnit
      omega
    calc
      (ofInt integer).units = normalized * 2 ^ (integer.natAbs.log2 + rest) := by
          rw [units_eq, significandEq, splitExponent]
      _ = integer.natAbs * fractionCount * 2 ^ rest := by
          rw [shifted, Nat.pow_add, Nat.mul_assoc]
      _ = integer.natAbs * unitsOfOne := by
          rw [unitsOfOne_eq, splitUnit, Nat.pow_add, ← fractionCount_eq, Nat.mul_assoc]

theorem toInt?_ofInt_of_fits (small : integer.natAbs < 2 ^ 64) (fits : FitsSignificand integer) :
    (ofInt integer).toInt? = some integer := by
  by_cases isZero : integer = 0
  · subst isZero
    rw [toInt?_eq_some_iff]
    exact ⟨rfl, Nat.zero_mod _, rfl⟩
  · obtain ⟨finite, size, sign⟩ := units_ofInt small isZero fits
    have positive : 0 < unitsOfOne := by
      rw [unitsOfOne_eq]
      exact Nat.two_pow_pos _
    rw [toInt?_eq_some_iff, size, Nat.mul_mod_left, Nat.mul_div_cancel _ positive]
    refine ⟨finite, rfl, ?_⟩
    by_cases negative : integer < 0
    · rw [if_pos (sign.2 negative)]
      omega
    · rw [if_neg fun isNegative => negative (sign.1 isNegative)]
      omega

/-! ## What is not widened without loss -/

/-- An integer that some number is fits: beyond fifty-three bits the number is a multiple of a power
of two. -/
theorem fits_of_toInt? {number : Binary64} (whole : number.toInt? = some integer) :
    FitsSignificand integer := by
  by_cases small : integer.natAbs < 2 ^ 53
  · exact fitsSignificand_of_lt small
  · have nonzero : integer ≠ 0 := by
      rintro rfl
      exact small (by decide)
    have leading : 53 ≤ integer.natAbs.log2 :=
      (Nat.le_log2 (Int.natAbs_ne_zero.2 nonzero)).2 (Nat.le_of_not_lt small)
    obtain ⟨exponent, splitExponent⟩ : ∃ exponent, integer.natAbs.log2 = exponent + 52 :=
      ⟨integer.natAbs.log2 - 52, by omega⟩
    have size := natAbs_mul_fractionCount whole nonzero
    rw [splitExponent, Nat.pow_add, ← Nat.mul_assoc, fractionCount_eq] at size
    refine ⟨number.significand, exponent, ?_, ?_⟩
    · exact Nat.eq_of_mul_eq_mul_right (Nat.two_pow_pos 52) size
    · rw [← two_mul_fractionCount]
      exact number.significand_lt

/-- Widening loses nothing exactly for the integers that fit. -/
theorem toInt?_ofInt_eq_some_iff (small : integer.natAbs < 2 ^ 64) :
    (ofInt integer).toInt? = some integer ↔ FitsSignificand integer :=
  ⟨fits_of_toInt?, toInt?_ofInt_of_fits small⟩

end Recast.Binary64
