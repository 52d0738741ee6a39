import Recast.Text.CodePoint
import Recast.Text.EscapeTable

/-!
# Quoted text

Text between double quotes.  Quotes, backslashes and the usual controls are written with a
backslash, and characters without a shape of their own by their code point.
-/

namespace Recast.Text

def isShapeless (tested : Char) : Bool :=
  inRanges shapelessBelowMyanmar tested || inRanges shapelessBasicPlane tested ||
    inRanges shapelessSupplementary tested

def codePointEscape (written : Char) : String :=
  "\\u\x7b" ++ String.ofList (Nat.toDigits 16 written.toNat) ++ "\x7d"

/-- How a character is written between double quotes. -/
def escaped (written : Char) : String :=
  if written = '\x00' then "\\0"
  else if written = '\t' then "\\t"
  else if written = '\n' then "\\n"
  else if written = '\r' then "\\r"
  else if written = '"' then "\\\""
  else if written = '\\' then "\\\\"
  else if isShapeless written then codePointEscape written
  else written.toString

def quoted (text : String) : String :=
  "\"" ++ String.join (text.toList.map escaped) ++ "\""

end Recast.Text
