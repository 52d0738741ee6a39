import Recast.Entries.Basic
import Recast.Number.Binary64

/-!
# JSON documents

A document is a tree.  A number is a non-negative integer of 64 bits, a negative one, or a finite
float, and knows which of these it is.  Objects keep the order of their members.
-/

namespace Recast

inductive JsonNumber where
  | unsigned (number : UInt64)
  | negative (number : Int64) (isNegative : number < 0)
  | float (number : Binary64) (isFinite : number.isFinite = true)
  deriving DecidableEq

namespace JsonNumber

def ofInt64 (number : Int64) : JsonNumber :=
  if isNegative : number < 0 then .negative number isNegative else .unsigned number.toUInt64

/-- The number that a float is; infinities and NaNs are none. -/
def ofBinary64? (number : Binary64) : Option JsonNumber :=
  if isFinite : number.isFinite = true then some (.float number isFinite) else none

/-- The signed integer that a number is, if it is kept as an integer and fits. -/
def toInt64? : JsonNumber → Option Int64
  | .unsigned number => if number.toNat < 0x8000000000000000 then some number.toInt64 else none
  | .negative number _ => some number
  | .float _ _ => none

/-- The number as a float; an integer goes to the nearest one. -/
def toBinary64 : JsonNumber → Binary64
  | .unsigned number => .ofInt number.toNat
  | .negative number _ => .ofInt number.toInt
  | .float number _ => number

end JsonNumber

inductive Json where
  | null
  | bool (truth : Bool)
  | number (number : JsonNumber)
  | string (text : String)
  | array (items : List Json)
  | object (members : List (String × Json))

end Recast
