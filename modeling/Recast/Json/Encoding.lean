import Recast.Json.Conversion
import Recast.Number.Shortest

/-!
# Encoding the data of a program

The data of a program may hold what a document cannot: maps with keys of any kind, and floats that
are not finite.  Keys are written as text if they are scalars; such floats become `null`, and as
keys they are refused.
-/

namespace Recast

/-- The data of a program. -/
inductive HostData where
  | unit
  | bool (truth : Bool)
  | unsigned (number : UInt64)
  | signed (number : Int64)
  | float (number : Binary64)
  | string (text : String)
  | sequence (items : List HostData)
  | mapping (entries : List (HostData × HostData))

/-- Why data has no document. -/
inductive EncodeFault where
  | keyNotText
  | keyNotFinite
  deriving DecidableEq

def EncodeFault.message : EncodeFault → String
  | .keyNotText => "key must be a string"
  | .keyNotFinite => "float key must be finite (got NaN or +/-inf)"

namespace HostData

/-- Keys that are floats are written with the fewest digits that tell them apart; positions run
from five places behind the point to sixteen before it, and of two texts of equal merit the even one
is taken. -/
def keyFormat : Decimal.Format where
  leastPositional := -5
  mostPositional := 16
  tie := .toEven

def keyText : HostData → Except EncodeFault String
  | .bool truth => .ok (if truth then "true" else "false")
  | .unsigned number => .ok (toString number.toNat)
  | .signed number => .ok (toString number.toInt)
  | .float number =>
      if number.isFinite then .ok (keyFormat.text number) else .error .keyNotFinite
  | .string text => .ok text
  | _ => .error .keyNotText

mutual

/-- The document of data. -/
def toJson : HostData → Except EncodeFault Json
  | .unit => .ok .null
  | .bool truth => .ok (.bool truth)
  | .unsigned number => .ok (.number (.unsigned number))
  | .signed number => .ok (.number (.ofInt64 number))
  | .float number => .ok (.ofBinary64 number)
  | .string text => .ok (.string text)
  | .sequence items => do
      let documents ← itemsToJson items
      .ok (.array documents)
  | .mapping entries => do
      let members ← entriesToJson [] entries
      .ok (.object members)

def itemsToJson : List HostData → Except EncodeFault (List Json)
  | [] => .ok []
  | item :: rest => do
      let document ← item.toJson
      let others ← itemsToJson rest
      .ok (document :: others)

/-- The members for entries, added to those before, until an entry fails; its key is looked at
first. -/
def entriesToJson (members : Entries Json) :
    List (HostData × HostData) → Except EncodeFault (Entries Json)
  | [] => .ok members
  | (key, value) :: rest => do
      let text ← key.keyText
      let document ← value.toJson
      entriesToJson (Entries.insert members text document) rest

end

def toValue (data : HostData) : Except EncodeFault Value :=
  data.toJson.map .ofJson

end HostData

end Recast
