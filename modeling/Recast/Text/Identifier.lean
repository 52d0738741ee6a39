import Recast.Text.Alphabet

/-!
# Identifiers

A name is an identifier when it starts with a letter, or with an underscore that stands alone or
is followed by a character that may continue a name, and when every later character may continue
a name.  Which characters start and continue names is for the alphabet to say.
-/

namespace Recast.Text

/-- Why a text is not an identifier. -/
inductive IdentifierFault where
  | empty
  | badStart
  | badCharacter (found : Char)
  deriving DecidableEq

def IdentifierFault.message : IdentifierFault → String
  | .empty => "empty name"
  | .badStart => "must start with a letter or underscore"
  | .badCharacter found => s!"invalid character '{found}' in identifier"

variable (alphabet : Alphabet)

/-- Whether an identifier may begin with `first`, with `rest` following it. -/
def opensIdentifier (first : Char) (rest : List Char) : Bool :=
  alphabet.isStart first || (first == '_' && (rest.head?.map alphabet.isContinue).getD true)

/-- What keeps the characters from being an identifier: the start is looked at first, then the
later characters from left to right. -/
def identifierFault? : List Char → Option IdentifierFault
  | [] => some .empty
  | first :: rest =>
      if opensIdentifier alphabet first rest then
        (rest.find? fun later => !alphabet.isContinue later).map .badCharacter
      else
        some .badStart

def isIdentifier (text : String) : Bool :=
  (identifierFault? alphabet text.toList).isNone

end Recast.Text
