import Recast.Number.Binary64

/-!
# Shortest decimal text of floating-point numbers

A finite number is written with the fewest digits that read back as the same number; of several
such texts the nearest to the number is taken, and of two at the same distance the one that the
format prefers.  All comparisons are exact, in units of
`2 ^ (-1076)`, a quarter of the smallest positive number, so that the middle between two
neighbours is a whole number of units.
-/

namespace Recast

namespace Decimal

/-- The decimal number `digits * 10 ^ exponent`. -/
structure Approximation where
  digits : Nat
  exponent : Int

/-- The numbers between `low` and `high` in quarter units, the ends included or not. -/
structure Interval where
  low : Nat
  high : Nat
  closed : Bool

/-- The reals that round to a positive finite number.  Below a power of two the neighbour is only
half as far, except at the bottom of the range. -/
def Interval.around (number : Binary64) : Interval :=
  let step := 1 <<< (number.storedExponent - 1)
  let centre := 4 * number.units
  let below := if number.fraction = 0 ∧ 1 < number.storedExponent then step else 2 * step
  { low := centre - below
    high := centre + 2 * step
    closed := number.significand % 2 == 0 }

/-- A decimal number in quarter units, as a fraction with the denominator that `scaled` gives. -/
def scale (exponent : Int) : Nat × Nat :=
  (Nat.pow 10 exponent.toNat <<< 1076, Nat.pow 10 (-exponent).toNat)

/-- Whether `digits * 10 ^ exponent` lies in the interval. -/
def Interval.holds (interval : Interval) (digits : Nat) (exponent : Int) : Bool :=
  let (factor, divisor) := scale exponent
  let size := digits * factor
  if interval.closed then
    interval.low * divisor ≤ size && size ≤ interval.high * divisor
  else
    interval.low * divisor < size && size < interval.high * divisor

/-- The multiple of `10 ^ exponent` in the interval that is nearest to `centre`, if there is
one. -/
def nearestOnGrid? (tie : Tie) (interval : Interval) (centre : Nat) (exponent : Int) :
    Option Nat :=
  let (factor, divisor) := scale exponent
  let below := centre * divisor / factor
  let lower := if interval.holds below exponent then some below else none
  let upper := if interval.holds (below + 1) exponent then some (below + 1) else none
  match lower, upper with
  | some _, some _ => some (roundedQuotient tie (centre * divisor) factor)
  | some digits, none => some digits
  | none, upper => upper

/-- Search coarser grids before finer ones, from `exponent` downwards. -/
def search (tie : Tie) (interval : Interval) (centre : Nat) (exponent : Int) :
    Nat → Approximation
  | 0 => ⟨0, 0⟩
  | tries + 1 =>
      match nearestOnGrid? tie interval centre exponent with
      | some digits =>
          if digits = 0 then
            search tie interval centre (exponent - 1) tries
          else
            ⟨digits, exponent⟩
      | none => search tie interval centre (exponent - 1) tries

/-- The shortest decimal number for a positive finite number.  No such number reaches
`10 ^ 309`, and each is a multiple of `10 ^ (-1074)`. -/
def shortest (tie : Tie) (number : Binary64) : Approximation :=
  search tie (.around number) (4 * number.units) 309 1400

/-- The decisions of a written form.  Positional notation is taken where the place of the first
digit, counted from the decimal point, is above `leastPositional` and up to `mostPositional`.  Of
two shortest texts at the same distance `tie` decides. -/
structure Format where
  leastPositional : Int
  mostPositional : Int
  tie : Tie

/-- Digits with a decimal point behind the first `place` of them, zeros filled in on either side,
and at least one digit on either side of the point. -/
def positional (digits : List Char) (place : Int) : List Char :=
  if place ≤ 0 then
    '0' :: '.' :: List.replicate (-place).toNat '0' ++ digits
  else
    let whole := digits.take place.toNat
    let rest := digits.drop place.toNat
    whole ++ List.replicate (place.toNat - digits.length) '0' ++ '.' ::
      (if rest.isEmpty then ['0'] else rest)

/-- Digits with a decimal point behind the first, and an exponent. -/
def scientific (digits : List Char) (place : Int) : List Char :=
  let mantissa :=
    match digits with
    | first :: second :: rest => first :: '.' :: second :: rest
    | short => short
  mantissa ++ 'e' :: (toString (place - 1)).toList

def Format.positiveText (format : Format) (number : Binary64) : String :=
  let found := shortest format.tie number
  let digits := Nat.toDigits 10 found.digits
  let place := found.exponent + digits.length
  String.ofList <|
    if format.leastPositional < place ∧ place ≤ format.mostPositional then
      positional digits place
    else
      scientific digits place

def Format.text (format : Format) (number : Binary64) : String :=
  let sign := if number.isNegative then "-" else ""
  sign ++ if number.isZero then "0.0" else format.positiveText number

end Decimal

end Recast
