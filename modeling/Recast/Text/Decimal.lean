/-!
# Decimal text of natural numbers

Positions in an array are written in decimal.  Reading one is lenient about leading zeros and
about a leading plus sign, and refuses numbers that do not fit a 64-bit word.
-/

namespace Recast.Text

/-- The number that decimal digits denote; at least one digit is needed. -/
def decimalValue? (digits : List Char) : Option Nat :=
  if !digits.isEmpty && digits.all Char.isDigit then
    some (digits.foldl (fun total digit => 10 * total + (digit.toNat - '0'.toNat)) 0)
  else
    none

/-- The array position that a text denotes. -/
def indexValue? (text : String) : Option Nat :=
  let digits :=
    match text.toList with
    | '+' :: digits => digits
    | digits => digits
  (decimalValue? digits).filter (· < UInt64.size)

end Recast.Text
