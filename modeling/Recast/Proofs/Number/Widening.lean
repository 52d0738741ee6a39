import Recast.Proofs.Number.Equality

/-!
# Integers widened to binary floating-point numbers

An integer that is a binary floating-point number is widened to that number, so widening agrees
with equality between the two kinds of numbers.  For the integer is the significand of the number
times a power of two, and its quotient by that power is rounded to the significand itself.
-/

namespace Recast

theorem roundedQuotient_mul_self (tie : Tie) (quotient : Nat) {divisor : Nat}
    (positive : 0 < divisor) :
    roundedQuotient tie (quotient * divisor) divisor = quotient := by
  have noRemainder : quotient * divisor % divisor = 0 := Nat.mul_mod_left _ _
  have noTie : (0 == divisor) = false := beq_false_of_ne (Nat.ne_of_lt positive)
  rw [roundedQuotient, noRemainder, Nat.mul_div_cancel _ positive, Nat.mul_zero]
  simp [noTie]

theorem roundedQuotient_le (tie : Tie) (dividend divisor : Nat) :
    roundedQuotient tie dividend divisor ≤ dividend / divisor + 1 := by
  rw [roundedQuotient]
  split <;> omega

theorem log2_mul_two_pow {natural : Nat} (nonzero : natural ≠ 0) (exponent : Nat) :
    (natural * 2 ^ exponent).log2 = natural.log2 + exponent := by
  have power := Nat.two_pow_pos exponent
  rw [Nat.log2_eq_iff (Nat.mul_ne_zero nonzero (Nat.ne_of_gt power)), Nat.pow_add,
    Nat.add_right_comm, Nat.pow_add]
  exact ⟨Nat.mul_le_mul_right _ (Nat.log2_self_le nonzero),
    Nat.mul_lt_mul_of_pos_right Nat.lt_log2_self power⟩

namespace Binary64

variable {number : Binary64} {integer : Int}

/-! ## Fields of the word -/

/-- The word of a number is put together from its fields. -/
theorem toNat_bits (number : Binary64) :
    number.bits.toNat =
      number.storedExponent * fractionCount + number.fraction +
        if number.isNegative then signBit else 0 := by
  have bound := number.bits.toNat_lt
  by_cases negative : number.isNegative = true
  · have large : signBit ≤ number.bits.toNat := of_decide_eq_true negative
    rw [if_pos negative]
    simp only [storedExponent, fraction, exponentCount, fractionCount, signBit] at large ⊢
    omega
  · have small : ¬ signBit ≤ number.bits.toNat :=
      of_decide_eq_false (Bool.eq_false_iff.2 negative)
    rw [if_neg negative]
    simp only [storedExponent, fraction, exponentCount, fractionCount, signBit] at small ⊢
    omega

theorem storedExponent_lt_of_isFinite (finite : number.isFinite = true) :
    number.storedExponent < 2047 := by
  have bound : number.storedExponent < exponentCount := Nat.mod_lt _ (by decide)
  rw [isFinite, bne_iff_ne] at finite
  rw [exponentCount] at bound
  omega

/-! ## Numbers that are integers -/

/-- A number that is an integer other than zero is at least one, so its leading bit is implied. -/
theorem storedExponent_ne_zero_of_toInt? (whole : number.toInt? = some integer)
    (nonzero : integer ≠ 0) :
    number.storedExponent ≠ 0 := by
  intro subnormal
  have small : number.units < fractionCount := by
    rw [units_eq, significand, if_pos subnormal, subnormal, Nat.pow_zero, Nat.mul_one]
    exact number.fraction_lt
  have large : fractionCount ≤ unitsOfOne := by
    rw [unitsOfOne_eq]
    exact Nat.pow_le_pow_right (by decide : 0 < 2) (by decide : 52 ≤ unitExponent)
  have atLeastOne : unitsOfOne ≤ number.units := by
    rw [units_of_toInt? whole]
    exact Nat.le_mul_of_pos_left _ (Int.natAbs_pos.2 nonzero)
  omega

/-- The exponent of a number that is an integer other than zero is that of the integer. -/
theorem storedExponent_eq_of_toInt? (whole : number.toInt? = some integer)
    (nonzero : integer ≠ 0) :
    number.storedExponent = integer.natAbs.log2 + 1023 := by
  have normal := storedExponent_ne_zero_of_toInt? whole nonzero
  have atLeast := fractionCount_le_significand normal
  have significandNonzero : number.significand ≠ 0 := by
    rw [fractionCount] at atLeast
    omega
  have significandExponent : number.significand.log2 = 52 :=
    (Nat.log2_eq_iff significandNonzero).2 ⟨atLeast, number.significand_lt⟩
  have fromFields : number.units.log2 = 52 + (number.storedExponent - 1) := by
    rw [units_eq, log2_mul_two_pow significandNonzero, significandExponent]
  have fromInteger : number.units.log2 = integer.natAbs.log2 + unitExponent := by
    rw [units_of_toInt? whole, unitsOfOne_eq, log2_mul_two_pow (Int.natAbs_ne_zero.2 nonzero)]
  rw [unitExponent] at fromInteger
  omega

/-- An integer other than zero, taken in units of the last bit of the number that it is, is the
significand of the number. -/
theorem natAbs_mul_fractionCount (whole : number.toInt? = some integer) (nonzero : integer ≠ 0) :
    integer.natAbs * fractionCount = number.significand * 2 ^ integer.natAbs.log2 := by
  have exponent := storedExponent_eq_of_toInt? whole nonzero
  have size := units_of_toInt? whole
  obtain ⟨rest, below⟩ : ∃ rest, unitExponent = 52 + rest := ⟨1022, rfl⟩
  have splitExponent : number.storedExponent - 1 = integer.natAbs.log2 + rest := by
    rw [unitExponent] at below
    omega
  rw [units_eq, splitExponent, unitsOfOne_eq, below, Nat.pow_add, Nat.pow_add, ← Nat.mul_assoc,
    ← Nat.mul_assoc] at size
  exact (Nat.eq_of_mul_eq_mul_right (Nat.two_pow_pos rest) size).symm

theorem bitsOfNat_natAbs (whole : number.toInt? = some integer) (nonzero : integer ≠ 0) :
    bitsOfNat integer.natAbs = number.storedExponent * fractionCount + number.fraction := by
  have exponent := storedExponent_eq_of_toInt? whole nonzero
  have finite := ((toInt?_eq_some_iff number integer).1 whole).1
  have bound := storedExponent_lt_of_isFinite finite
  have inRange : integer.natAbs.log2 < 1024 := by omega
  rw [bitsOfNat, if_neg (Int.natAbs_ne_zero.2 nonzero), if_pos inRange, Nat.one_shiftLeft,
    natAbs_mul_fractionCount whole nonzero, roundedQuotient_mul_self _ _ (Nat.two_pow_pos _),
    significand, if_neg (storedExponent_ne_zero_of_toInt? whole nonzero), exponent,
    ← Nat.add_assoc, ← Nat.succ_mul]

theorem isNegative_iff_of_toInt? (whole : number.toInt? = some integer) (nonzero : integer ≠ 0) :
    number.isNegative = true ↔ integer < 0 := by
  constructor
  · intro negative
    have nonpositive := nonpos_of_isNegative whole negative
    omega
  · intro below
    cases negative : number.isNegative with
    | true => rfl
    | false =>
        have nonnegative := nonneg_of_not_isNegative whole (Bool.eq_false_iff.1 negative)
        omega

/-- Widening an integer that is a number yields the number, up to the sign of zero. -/
theorem ofInt_equal_of_toInt? (whole : number.toInt? = some integer) :
    (ofInt integer).equal number = true := by
  have finite := ((toInt?_eq_some_iff number integer).1 whole).1
  have isNumber := isNaN_of_isFinite finite
  by_cases isZero : integer = 0
  · subst isZero
    have numberZero : number.isZero = true := by
      rw [isZero_iff_units_eq_zero, units_of_toInt? whole, Int.natAbs_zero, Nat.zero_mul]
    exact (equal_iff _ _).2 ⟨rfl, isNumber, .inr ⟨rfl, numberZero⟩⟩
  · have sameSign : (if integer < 0 then signBit else 0) =
        if number.isNegative then signBit else 0 := by
      simp only [isNegative_iff_of_toInt? whole isZero]
    have sameWord : ofInt integer = number := by
      rw [ofInt, bitsOfNat_natAbs whole isZero, sameSign, ← toNat_bits, UInt64.ofNat_toNat]
    rw [sameWord, equal_self_iff]
    exact isNumber

/-! ## Widened integers are numbers -/

theorem bitsOfNat_lt {natural : Nat} (small : natural < 2 ^ 64) :
    bitsOfNat natural < 2047 * fractionCount := by
  by_cases isZero : natural = 0
  · rw [bitsOfNat, if_pos isZero]
    decide
  · have exponent : natural.log2 < 64 := (Nat.log2_lt isZero).2 small
    have power := Nat.two_pow_pos natural.log2
    have quotient : natural * fractionCount / 2 ^ natural.log2 < 2 * fractionCount := by
      rw [Nat.div_lt_iff_lt_mul power, Nat.mul_comm 2, Nat.mul_assoc, ← Nat.pow_succ',
        Nat.mul_comm]
      exact Nat.mul_lt_mul_of_pos_left Nat.lt_log2_self (by decide)
    have rounded := roundedQuotient_le .toEven (natural * fractionCount) (2 ^ natural.log2)
    rw [bitsOfNat, if_neg isZero, if_pos (by omega), Nat.one_shiftLeft]
    rw [fractionCount] at quotient rounded ⊢
    omega

/-- An integer of any ordinary size is widened to a number. -/
theorem isNaN_ofInt (small : integer.natAbs < 2 ^ 64) :
    (ofInt integer).isNaN = false := by
  have bound := bitsOfNat_lt small
  apply isNaN_of_isFinite
  rw [isFinite, bne_iff_ne, storedExponent, ofInt, UInt64.toNat_ofNat']
  rw [fractionCount] at bound ⊢
  split <;> simp only [exponentCount, signBit] <;> omega

theorem isNaN_ofInt_toInt (integer : Int64) : (ofInt integer.toInt).isNaN = false := by
  have above := integer.le_toInt
  have below := integer.toInt_lt
  exact isNaN_ofInt (by omega)

end Binary64

end Recast
