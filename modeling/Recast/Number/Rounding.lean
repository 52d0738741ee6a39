/-!
# Rounded quotients

A quotient of natural numbers is rounded to the nearest natural number.  A quotient in the middle
between two of them is a tie, which goes one way or the other by a rule that the caller chooses.
-/

namespace Recast

/-- Where a number in the middle between two neighbours goes. -/
inductive Tie where
  /-- To the greater neighbour. -/
  | upward
  /-- To the neighbour that is even. -/
  | toEven
  deriving DecidableEq

/-- Whether a tie goes to the neighbour above `lower`. -/
def Tie.raises (tie : Tie) (lower : Nat) : Bool :=
  match tie with
  | .upward => true
  | .toEven => lower % 2 == 1

/-- A quotient rounded to the nearest natural number. -/
def roundedQuotient (tie : Tie) (dividend divisor : Nat) : Nat :=
  let quotient := dividend / divisor
  let remainder := dividend % divisor
  if divisor < 2 * remainder || (2 * remainder == divisor && tie.raises quotient) then
    quotient + 1
  else
    quotient

end Recast
