import Recast.Number.Rounding

/-!
# Binary floating-point numbers of 64 bits

A number is its bit pattern: one sign bit, eleven bits of exponent and fifty-two of fraction.
Everything else is exact arithmetic on natural numbers and integers.  The unit of measure is the
smallest positive number, `2 ^ (-1074)`, of which every finite number is a whole multiple.
-/

namespace Recast

/-- A binary floating-point number, given by its bits. -/
structure Binary64 where
  bits : UInt64
  deriving DecidableEq

namespace Binary64

/-- How many fractions there are: the value of the bit above the fraction. -/
def fractionCount : Nat :=
  0x10000000000000

def exponentCount : Nat :=
  0x800

def signBit : Nat :=
  0x8000000000000000

/-- The low fifty-two bits. -/
def fraction (number : Binary64) : Nat :=
  number.bits.toNat % fractionCount

/-- The eleven bits of exponent, as they are stored. -/
def storedExponent (number : Binary64) : Nat :=
  number.bits.toNat / fractionCount % exponentCount

def isNegative (number : Binary64) : Bool :=
  signBit ≤ number.bits.toNat

def isFinite (number : Binary64) : Bool :=
  number.storedExponent != 2047

/-- Whether the bits stand for no number at all. -/
def isNaN (number : Binary64) : Bool :=
  number.storedExponent == 2047 && number.fraction != 0

def isZero (number : Binary64) : Bool :=
  number.storedExponent == 0 && number.fraction == 0

/-- The significant bits of a finite number, as an integer.  Below the smallest stored exponent
the leading bit is not implied. -/
def significand (number : Binary64) : Nat :=
  if number.storedExponent = 0 then number.fraction else fractionCount + number.fraction

/-- The size of a finite number in units of `2 ^ (-1074)`. -/
def units (number : Binary64) : Nat :=
  number.significand <<< (number.storedExponent - 1)

/-- The number one, in units of `2 ^ (-1074)`. -/
def unitsOfOne : Nat :=
  1 <<< 1074

/-- Equality of numbers: a NaN equals nothing, and the two zeros are equal. -/
def equal (left right : Binary64) : Bool :=
  !left.isNaN && !right.isNaN && (left == right || (left.isZero && right.isZero))

/-- The integer that a number is, if it is one. -/
def toInt? (number : Binary64) : Option Int :=
  if number.isFinite && number.units % unitsOfOne == 0 then
    let size : Int := (number.units / unitsOfOne : Nat)
    some (if number.isNegative then -size else size)
  else
    none

def infinity : Binary64 :=
  ⟨0x7ff0000000000000⟩

/-- The bits of the number nearest to a natural number, a tie going to the even significand.  A
significand that rounds up to the next power of two carries into the exponent. -/
def bitsOfNat (natural : Nat) : Nat :=
  if natural = 0 then
    0
  else if natural.log2 < 1024 then
    (natural.log2 + 1022) * fractionCount +
      roundedQuotient .toEven (natural * fractionCount) (1 <<< natural.log2)
  else
    infinity.bits.toNat

/-- The number nearest to an integer, a tie going to the even significand. -/
def ofInt (integer : Int) : Binary64 :=
  ⟨UInt64.ofNat (bitsOfNat integer.natAbs + if integer < 0 then signBit else 0)⟩

end Binary64

end Recast
