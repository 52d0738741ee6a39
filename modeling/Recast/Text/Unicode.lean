import Recast.Text.Alphabet
import Recast.Text.CodePoint
import Recast.Text.IdentifierTable

/-!
# The alphabet of Unicode

Letters, digits and the underscore in ASCII, and beyond ASCII the ranges of `IdentifierTable`.
-/

namespace Recast.Text

def isUnicodeStart (tested : Char) : Bool :=
  if tested.toNat < 0x80 then
    tested.isAlpha
  else
    inRanges startBelowMyanmar tested || inRanges startBasicPlane tested ||
      inRanges startSupplementary tested

def isUnicodeContinue (tested : Char) : Bool :=
  if tested.toNat < 0x80 then
    tested.isAlphanum || tested == '_'
  else
    isUnicodeStart tested || inRanges continueBelowMyanmar tested ||
      inRanges continueBasicPlane tested || inRanges continueSupplementary tested

/-- No code point is in a range of both tables. -/
def rangesApart (left right : List (Nat × Nat)) : Bool :=
  left.all fun range => right.all fun other => range.2 < other.1 || other.2 < range.1

theorem inRanges_eq_false_of_rangesApart {left right : List (Nat × Nat)}
    (apart : rangesApart left right = true) {tested : Char} (inLeft : inRanges left tested = true) :
    inRanges right tested = false := by
  rw [inRanges, List.any_eq_true] at inLeft
  obtain ⟨range, rangeMember, inRange⟩ := inLeft
  rw [inRanges, List.any_eq_false]
  intro other otherMember
  have separate := List.all_eq_true.1 (List.all_eq_true.1 apart range rangeMember) other otherMember
  simp only [Bool.and_eq_true, Bool.or_eq_true, decide_eq_true_eq] at inRange separate ⊢
  omega

/-- In ASCII, letters, digits and the underscore come after the space. -/
theorem isUnicodeContinue_of_toNat_le {tested : Char} (low : tested.toNat ≤ 0x20) :
    isUnicodeContinue tested = false := by
  have notUnderscore : tested ≠ '_' := by
    rintro rfl
    contradiction
  have value : tested.val.toNat = tested.toNat := rfl
  have isAscii : tested.toNat < 0x80 := by omega
  rw [isUnicodeContinue, if_pos isAscii, beq_eq_false_iff_ne.2 notUnderscore, Bool.or_false]
  unfold Char.isAlphanum Char.isAlpha Char.isUpper Char.isLower Char.isDigit
  simp only [Bool.or_eq_false_iff, Bool.and_eq_false_iff, decide_eq_false_iff_not, ge_iff_le,
    UInt32.le_iff_toNat_le, value, Char.reduceVal, UInt32.reduceToNat]
  omega

theorem isUnicodeContinue_of_isBlank {tested : Char} (blank : isBlank tested = true) :
    isUnicodeContinue tested = false := by
  by_cases isAscii : tested.toNat < 0x80
  · apply isUnicodeContinue_of_toNat_le
    simp only [isBlank, inRanges, blankRanges, List.any_cons, List.any_nil, Bool.or_eq_true,
      Bool.and_eq_true, decide_eq_true_eq, Bool.false_eq_true, or_false] at blank
    omega
  · have outside : ∀ ranges, rangesApart blankRanges ranges = true →
        inRanges ranges tested = false :=
      fun ranges apart => inRanges_eq_false_of_rangesApart apart blank
    rw [isUnicodeContinue, if_neg isAscii, isUnicodeStart, if_neg isAscii,
      outside startBelowMyanmar (by decide +kernel), outside startBasicPlane (by decide +kernel),
      outside startSupplementary (by decide +kernel),
      outside continueBelowMyanmar (by decide +kernel),
      outside continueBasicPlane (by decide +kernel),
      outside continueSupplementary (by decide +kernel)]
    rfl

theorem isUnicodeContinue_of_isUnicodeStart {tested : Char}
    (starts : isUnicodeStart tested = true) :
    isUnicodeContinue tested = true := by
  rw [isUnicodeContinue]
  split
  · next isAscii =>
      rw [isUnicodeStart, if_pos isAscii] at starts
      rw [Char.isAlphanum, starts]
      rfl
  · rw [starts]
    rfl

/-- The alphabet that the tables give. -/
def unicode : Alphabet where
  isStart := isUnicodeStart
  isContinue := isUnicodeContinue
  isContinue_ascii _ isAscii := if_pos isAscii
  isContinue_of_isStart _ := isUnicodeContinue_of_isUnicodeStart
  isContinue_of_isBlank _ := isUnicodeContinue_of_isBlank

end Recast.Text
