/-!
# Classes of characters given by ranges

A table lists the ranges of code points that a class of characters consists of.  Each pair holds
the first and the last code point of one range.
-/

namespace Recast.Text

def inRanges (ranges : List (Nat × Nat)) (tested : Char) : Bool :=
  ranges.any fun range => range.1 ≤ tested.toNat && tested.toNat ≤ range.2

/-- The number of bytes that the characters take in UTF-8. -/
def byteSize : List Char → Nat
  | [] => 0
  | first :: rest => first.utf8Size + byteSize rest

end Recast.Text
