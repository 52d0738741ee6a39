import Recast.Number.Shortest
import Recast.Text.Quoted
import Recast.Value.Basic

/-!
# Written form of untyped values

A value in writing names the kind of each of its parts, as in `Array([Integer(1), Null])`.  It is
meant for people and is not read back.
-/

namespace Recast.Value

/-- Floats are written in positional notation from `0.0001` up to, and without, `1e16`.  Of two
texts of equal merit the one farther from zero is taken. -/
def floatFormat : Decimal.Format where
  leastPositional := -4
  mostPositional := 16
  tie := .upward

def floatText (number : Binary64) : String :=
  if number.isNaN then "NaN"
  else if number.isFinite then floatFormat.text number
  else if number.isNegative then "-inf"
  else "inf"

mutual

/-- A value in writing. -/
def text : Value → String
  | .null => "Null"
  | .bool truth => if truth then "Bool(true)" else "Bool(false)"
  | .integer number => s!"Integer({number.toInt})"
  | .float number => s!"Float({floatText number})"
  | .string content => s!"String({Text.quoted content})"
  | .array items => "Array([" ++ ", ".intercalate (itemTexts items) ++ "])"
  | .map entries => "Map(\x7b" ++ ", ".intercalate (entryTexts entries) ++ "\x7d)"

def itemTexts : List Value → List String
  | [] => []
  | item :: rest => item.text :: itemTexts rest

def entryTexts : List (String × Value) → List String
  | [] => []
  | (key, value) :: rest => s!"{Text.quoted key}: {value.text}" :: entryTexts rest

end

end Recast.Value
