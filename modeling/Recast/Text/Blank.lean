import Recast.Text.CodePoint

/-!
# Blank characters

The characters that may stand between the tokens of an annotation: those with the Unicode
property `White_Space`.
-/

namespace Recast.Text

/-- The ranges of code points with the Unicode property `White_Space`. -/
def blankRanges : List (Nat × Nat) :=
  [(0x9, 0xd), (0x20, 0x20), (0x85, 0x85), (0xa0, 0xa0), (0x1680, 0x1680), (0x2000, 0x200a),
    (0x2028, 0x2029), (0x202f, 0x202f), (0x205f, 0x205f), (0x3000, 0x3000)]

def isBlank (tested : Char) : Bool :=
  inRanges blankRanges tested

/-- What is left of the input after its leading blanks. -/
def skipBlank (input : List Char) : List Char :=
  input.dropWhile isBlank

theorem length_skipBlank_le (input : List Char) :
    (skipBlank input).length ≤ input.length :=
  (List.dropWhile_suffix isBlank).length_le

end Recast.Text
