import Recast.Text.Identifier

/-!
# What identifiers are made of

In an identifier a letter or an underscore stands first, and what follows are characters that may
stand inside names.  The underscore is one of them, and so is whatever may stand first.
-/

namespace Recast.Text

variable {alphabet : Alphabet}

/-- A letter or an underscore stands first, and all later characters may stand inside names. -/
def IsIdentifier (alphabet : Alphabet) : List Char → Prop
  | [] => False
  | first :: rest =>
      (alphabet.isStart first = true ∨ first = '_') ∧
        ∀ later ∈ rest, alphabet.isContinue later = true

/-- What is asked of the character behind a leading underscore is asked of all later characters. -/
theorem opensIdentifier_of_continues {first : Char} {rest : List Char}
    (starts : alphabet.isStart first = true ∨ first = '_')
    (continues : ∀ later ∈ rest, alphabet.isContinue later = true) :
    opensIdentifier alphabet first rest = true := by
  rw [opensIdentifier]
  rcases starts with isStart | rfl
  · rw [isStart, Bool.true_or]
  · cases rest with
    | nil => simp
    | cons second others =>
        have secondContinues := continues second List.mem_cons_self
        simp [secondContinues]

theorem identifierFault?_eq_none_iff (characters : List Char) :
    identifierFault? alphabet characters = none ↔ IsIdentifier alphabet characters := by
  cases characters with
  | nil => simp [identifierFault?, IsIdentifier]
  | cons first rest =>
      have noBadCharacter :
          (rest.find? fun later => !alphabet.isContinue later).map IdentifierFault.badCharacter =
              none ↔
            ∀ later ∈ rest, alphabet.isContinue later = true := by
        simp [List.find?_eq_none]
      rw [identifierFault?, IsIdentifier]
      split
      · next opens =>
          rw [noBadCharacter, iff_and_self]
          intro _
          rw [opensIdentifier, Bool.or_eq_true, Bool.and_eq_true, beq_iff_eq] at opens
          exact opens.imp_right And.left
      · next closed =>
          refine iff_of_false (Option.some_ne_none _) ?_
          rintro ⟨starts, continues⟩
          exact closed (opensIdentifier_of_continues starts continues)

theorem isIdentifier_iff (text : String) :
    isIdentifier alphabet text = true ↔ IsIdentifier alphabet text.toList := by
  rw [isIdentifier, Option.isNone_iff_eq_none, identifierFault?_eq_none_iff]

/-- An identifier is not empty, and all its characters may stand inside names. -/
theorem IsIdentifier.continues {characters : List Char}
    (identifier : IsIdentifier alphabet characters) :
    characters ≠ [] ∧ ∀ character ∈ characters,
      (character == '_' || alphabet.isContinue character) = true := by
  cases characters with
  | nil => exact identifier.elim
  | cons first rest =>
      obtain ⟨starts, continues⟩ := identifier
      refine ⟨List.cons_ne_nil first rest, List.forall_mem_cons.2 ⟨?_, fun later member => ?_⟩⟩
      · rcases starts with isStart | rfl
        · rw [alphabet.isContinue_of_isStart first isStart, Bool.or_true]
        · rfl
      · rw [continues later member, Bool.or_true]

end Recast.Text
