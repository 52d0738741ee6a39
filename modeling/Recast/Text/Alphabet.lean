import Recast.Text.Blank

/-!
# Characters of names

Unicode says which characters may start a name and which may stand inside one, and every version
of it adds some.  An alphabet is one such answer, with what does not change: which ASCII characters
stand inside names, that those are among them which a name may start with, and that no blank is.
-/

namespace Recast.Text

/-- The characters that names are made of. -/
structure Alphabet where
  /-- Whether a name may start with the character (`XID_Start`). -/
  isStart : Char → Bool
  /-- Whether the character may stand inside a name (`XID_Continue`). -/
  isContinue : Char → Bool
  isContinue_ascii : ∀ tested : Char, tested.toNat < 0x80 →
    isContinue tested = (tested.isAlphanum || tested == '_')
  isContinue_of_isStart : ∀ tested : Char, isStart tested = true → isContinue tested = true
  isContinue_of_isBlank : ∀ tested : Char, isBlank tested = true → isContinue tested = false

end Recast.Text
