import Mathlib.Data.List.TakeWhile
import Recast.Proofs.Text.Characters
import Recast.TypeExpr.Parser

/-!
# Tokens of annotations

An annotation is a sequence of names and marks, with blanks before any of them and at its end.
`Spelled` says which tokens stand at the front of some characters; what the reader takes off the
front, a name or an expected mark, is what this relation says is there.  A text spells one sequence
of tokens at most.
-/

namespace Recast

/-- The marks that stand between names. -/
inductive AnnotationMark where
  | opening
  | closing
  | comma
  deriving DecidableEq

def AnnotationMark.character : AnnotationMark → Char
  | .opening => '['
  | .closing => ']'
  | .comma => ','

theorem AnnotationMark.eq_of_character_eq {mark other : AnnotationMark}
    (same : mark.character = other.character) :
    mark = other := by
  revert same
  cases mark <;> cases other <;> decide

inductive AnnotationToken where
  | name (text : String)
  | mark (kind : AnnotationMark)

def AnnotationToken.characters : AnnotationToken → List Char
  | .name text => text.toList
  | .mark kind => [kind.character]

namespace TypeExpr

variable {alphabet : Text.Alphabet}

/-- The text is a name in form, whatever it may stand for. -/
def IsName (alphabet : Text.Alphabet) (text : String) : Prop :=
  text.toList ≠ [] ∧ ∀ character ∈ text.toList, isNameCharacter alphabet character = true

/-- No name goes on at the front of the characters. -/
def EndsName (alphabet : Text.Alphabet) (following : List Char) : Prop :=
  ∀ character, following.head? = some character → isNameCharacter alphabet character = false

/-- All characters are blanks. -/
def AllBlank (characters : List Char) : Prop :=
  ∀ character ∈ characters, Text.isBlank character = true

/-- A token may stand where `following` follows: a name is as long as possible. -/
def Stands (alphabet : Text.Alphabet) (following : List Char) : AnnotationToken → Prop
  | .name text => IsName alphabet text ∧ EndsName alphabet following
  | .mark _ => True

/-- The tokens stand at the front of the first characters, each maybe after blanks, and the second
ones are left. -/
inductive Spelled (alphabet : Text.Alphabet) :
    List AnnotationToken → List Char → List Char → Prop
  | nil (rest : List Char) : Spelled alphabet [] rest rest
  | cons {token : AnnotationToken} {later : List AnnotationToken}
      {blanks following rest : List Char} :
      AllBlank blanks →
      Stands alphabet following token →
      Spelled alphabet later following rest →
      Spelled alphabet (token :: later) (blanks ++ (token.characters ++ following)) rest

/-- The text consists of the tokens and of blanks before them and at its end. -/
def Spells (alphabet : Text.Alphabet) (tokens : List AnnotationToken) (text : String) : Prop :=
  ∃ rest, Spelled alphabet tokens text.toList rest ∧ AllBlank rest

/-! ## Blanks -/

theorem isNameCharacter_of_isBlank {tested : Char} (blank : Text.isBlank tested = true) :
    isNameCharacter alphabet tested = false := by
  rw [isNameCharacter, alphabet.isContinue_of_isBlank tested blank, Bool.or_false,
    beq_eq_false_iff_ne]
  rintro rfl
  contradiction

theorem isNameCharacter_mark (alphabet : Text.Alphabet) (mark : AnnotationMark) :
    isNameCharacter alphabet mark.character = false := by
  have isAscii : mark.character.toNat < 0x80 := by cases mark <;> decide
  rw [isNameCharacter, alphabet.isContinue_ascii mark.character isAscii]
  cases mark <;> decide

theorem isBlank_mark (mark : AnnotationMark) : Text.isBlank mark.character = false := by
  cases mark <;> decide

theorem skipBlank_eq_nil_iff (characters : List Char) :
    Text.skipBlank characters = [] ↔ AllBlank characters :=
  List.dropWhile_eq_nil_iff

theorem skipBlank_append {blanks : List Char} (allBlank : AllBlank blanks)
    (following : List Char) :
    Text.skipBlank (blanks ++ following) = Text.skipBlank following :=
  List.dropWhile_append_of_pos allBlank

/-- Blanks end where something else begins. -/
theorem skipBlank_cons {first : Char} (notBlank : Text.isBlank first = false) (rest : List Char) :
    Text.skipBlank (first :: rest) = first :: rest :=
  List.dropWhile_cons_of_neg (Bool.eq_false_iff.1 notBlank)

theorem exists_blanks (input : List Char) :
    ∃ blanks, AllBlank blanks ∧ input = blanks ++ Text.skipBlank input :=
  ⟨input.takeWhile Text.isBlank, fun _ => List.mem_takeWhile_imp,
    List.takeWhile_append_dropWhile.symm⟩

/-! ## What the reader takes off the front -/

theorem endsName_afterName (alphabet : Text.Alphabet) (input : List Char) :
    EndsName alphabet (afterName alphabet input) := by
  intro character found
  have stopped := List.head?_dropWhile_not (isNameCharacter alphabet)
    (Text.skipBlank input)
  rw [afterName] at found
  rw [found] at stopped
  exact stopped

theorem takeWhile_of_endsName {following : List Char} (ends : EndsName alphabet following) :
    following.takeWhile (isNameCharacter alphabet) = [] ∧
      following.dropWhile (isNameCharacter alphabet) = following := by
  cases following with
  | nil => exact ⟨rfl, rfl⟩
  | cons first rest =>
      have notName := Bool.eq_false_iff.1 (ends first rfl)
      exact ⟨List.takeWhile_cons_of_neg notName, List.dropWhile_cons_of_neg notName⟩

theorem skipBlank_name {text : String} (isName : IsName alphabet text) (following : List Char) :
    Text.skipBlank (text.toList ++ following) = text.toList ++ following := by
  obtain ⟨notEmpty, each⟩ := isName
  cases characters : text.toList with
  | nil => contradiction
  | cons first rest =>
      rw [characters, List.forall_mem_cons] at each
      refine skipBlank_cons (Bool.eq_false_iff.2 fun blank => ?_) (rest ++ following)
      rw [isNameCharacter_of_isBlank blank] at each
      exact Bool.false_ne_true each.1

/-- A name is taken off the front exactly when it stands there. -/
theorem spelled_name_iff (text : String) (later : List AnnotationToken) (input rest : List Char) :
    Spelled alphabet (.name text :: later) input rest ↔
      text.toList ≠ [] ∧ nameAtFront alphabet input = text.toList ∧
        Spelled alphabet later (afterName alphabet input) rest := by
  constructor
  · intro spelled
    cases spelled with
    | @cons _ _ blanks following _ allBlank stands spelledLater =>
        obtain ⟨isName, ends⟩ := stands
        -- The run stops where the name does, since no name character follows it.
        obtain ⟨taken, dropped⟩ := takeWhile_of_endsName ends
        have skipped : Text.skipBlank (blanks ++ (text.toList ++ following)) =
            text.toList ++ following := by
          rw [skipBlank_append allBlank, skipBlank_name isName]
        change text.toList ≠ [] ∧
          nameAtFront alphabet (blanks ++ (text.toList ++ following)) = _ ∧
          Spelled alphabet later (afterName alphabet (blanks ++ (text.toList ++ following))) rest
        rw [nameAtFront, afterName, skipped, List.takeWhile_append_of_pos isName.2, taken,
          List.dropWhile_append_of_pos isName.2, dropped, List.append_nil]
        exact ⟨isName.1, rfl, spelledLater⟩
  · rintro ⟨notEmpty, atFront, spelledLater⟩
    obtain ⟨blanks, allBlank, split⟩ := exists_blanks input
    have parts : nameAtFront alphabet input ++ afterName alphabet input = Text.skipBlank input :=
      List.takeWhile_append_dropWhile
    have isName : IsName alphabet text := by
      refine ⟨notEmpty, fun character member => ?_⟩
      rw [← atFront] at member
      exact List.mem_takeWhile_imp member
    have ends := endsName_afterName alphabet input
    rw [atFront] at parts
    rw [← parts] at split
    generalize afterName alphabet input = following at *
    rw [split]
    exact @Spelled.cons _ (.name text) _ _ _ _ allBlank ⟨isName, ends⟩ spelledLater

theorem eat?_eq_some_iff (expected : Char) (input rest : List Char) :
    eat? expected input = some rest ↔ Text.skipBlank input = expected :: rest := by
  rw [eat?]
  cases Text.skipBlank input with
  | nil => simp
  | cons first others => by_cases same : first = expected <;> simp [same]

theorem eat?_eq_none_iff (expected : Char) (input : List Char) :
    eat? expected input = none ↔ ∀ rest, Text.skipBlank input ≠ expected :: rest := by
  simp only [Option.eq_none_iff_forall_ne_some, ne_eq, eat?_eq_some_iff]

/-- A mark is eaten exactly when it stands at the front. -/
theorem spelled_mark_iff (mark : AnnotationMark) (later : List AnnotationToken)
    (input rest : List Char) :
    Spelled alphabet (.mark mark :: later) input rest ↔
      ∃ following, eat? mark.character input = some following ∧
        Spelled alphabet later following rest := by
  constructor
  · intro spelled
    cases spelled with
    | @cons _ _ blanks following _ allBlank _ spelledLater =>
        refine ⟨following, (eat?_eq_some_iff _ _ _).2 ?_, spelledLater⟩
        rw [skipBlank_append allBlank]
        exact skipBlank_cons (isBlank_mark mark) following
  · rintro ⟨following, eaten, spelledLater⟩
    obtain ⟨blanks, allBlank, split⟩ := exists_blanks input
    rw [(eat?_eq_some_iff _ _ _).1 eaten] at split
    rw [split]
    exact @Spelled.cons _ (.mark mark) _ _ _ _ allBlank trivial spelledLater

/-! ## Sequences of tokens -/

theorem Spelled.append {front back : List AnnotationToken} {input between rest : List Char}
    (spelledFront : Spelled alphabet front input between)
    (spelledBack : Spelled alphabet back between rest) :
    Spelled alphabet (front ++ back) input rest := by
  induction spelledFront with
  | nil _ => exact spelledBack
  | cons allBlank stands _ inductionHypothesis =>
      exact .cons allBlank stands (inductionHypothesis spelledBack)

theorem spelled_append_iff (front back : List AnnotationToken) (input rest : List Char) :
    Spelled alphabet (front ++ back) input rest ↔
      ∃ between, Spelled alphabet front input between ∧ Spelled alphabet back between rest := by
  constructor
  · intro spelled
    induction front generalizing input with
    | nil => exact ⟨input, .nil input, spelled⟩
    | cons token later inductionHypothesis =>
        cases spelled with
        | cons allBlank stands spelledLater =>
            obtain ⟨between, spelledFront, spelledBack⟩ := inductionHypothesis _ spelledLater
            exact ⟨between, .cons allBlank stands spelledFront, spelledBack⟩
  · rintro ⟨between, spelledFront, spelledBack⟩
    exact spelledFront.append spelledBack

/-- What is left of the characters is their end. -/
theorem Spelled.exists_eq_append {tokens : List AnnotationToken} {input left : List Char}
    (spelled : Spelled alphabet tokens input left) :
    ∃ before, input = before ++ left := by
  induction spelled with
  | nil rest => exact ⟨[], rfl⟩
  | @cons token _ blanks _ _ _ _ _ inductionHypothesis =>
      obtain ⟨before, rfl⟩ := inductionHypothesis
      exact ⟨blanks ++ (token.characters ++ before), by simp only [List.append_assoc]⟩

/-- The names among tokens that are spelled are names in form. -/
theorem Spelled.isName {tokens : List AnnotationToken} {input rest : List Char}
    (spelled : Spelled alphabet tokens input rest) {text : String}
    (member : .name text ∈ tokens) :
    IsName alphabet text := by
  induction spelled with
  | nil _ => contradiction
  | cons _ stands _ inductionHypothesis =>
      rcases List.mem_cons.1 member with rfl | later
      · exact stands.1
      · exact inductionHypothesis later

/-- Where only blanks are left, no token is spelled. -/
theorem Spelled.eq_nil_of_allBlank {tokens : List AnnotationToken} {input rest : List Char}
    (spelled : Spelled alphabet tokens input rest) (allBlank : AllBlank input) :
    tokens = [] := by
  have nothing := (skipBlank_eq_nil_iff input).2 allBlank
  rcases tokens with _ | ⟨text | mark, later⟩
  · rfl
  · obtain ⟨notEmpty, atFront, _⟩ := (spelled_name_iff text later input rest).1 spelled
    rw [nameAtFront, nothing] at atFront
    exact absurd atFront.symm notEmpty
  · obtain ⟨following, eaten, _⟩ := (spelled_mark_iff mark later input rest).1 spelled
    rw [eat?_eq_some_iff, nothing] at eaten
    contradiction

/-- A name and a mark do not stand at the same front. -/
theorem not_spelled_name_and_mark {text : String} {mark : AnnotationMark}
    {later others : List AnnotationToken} {input rest left : List Char}
    (named : Spelled alphabet (.name text :: later) input rest)
    (marked : Spelled alphabet (.mark mark :: others) input left) :
    False := by
  obtain ⟨notEmpty, atFront, _⟩ := (spelled_name_iff text later input rest).1 named
  obtain ⟨following, eaten, _⟩ := (spelled_mark_iff mark others input left).1 marked
  have notName := Bool.eq_false_iff.1 (isNameCharacter_mark alphabet mark)
  rw [nameAtFront, (eat?_eq_some_iff _ _ _).1 eaten, List.takeWhile_cons_of_neg notName] at atFront
  exact notEmpty atFront.symm

/-- Characters spell one sequence of tokens at most. -/
theorem Spelled.unique {tokens others : List AnnotationToken} {input rest left : List Char}
    (spelled : Spelled alphabet tokens input rest) (onlyBlanks : AllBlank rest)
    (spelledOthers : Spelled alphabet others input left) (onlyBlanksLeft : AllBlank left) :
    tokens = others := by
  induction tokens generalizing others input with
  | nil =>
      cases spelled
      exact (spelledOthers.eq_nil_of_allBlank onlyBlanks).symm
  | cons token later inductionHypothesis =>
      rcases others with _ | ⟨other, laterOthers⟩
      · cases spelledOthers
        exact spelled.eq_nil_of_allBlank onlyBlanksLeft
      · rcases token with text | mark <;> rcases other with otherText | otherMark
        · obtain ⟨_, atFront, spelledLater⟩ := (spelled_name_iff _ _ _ _).1 spelled
          obtain ⟨_, otherAtFront, spelledOther⟩ := (spelled_name_iff _ _ _ _).1 spelledOthers
          have sameText : text = otherText := String.toList_inj.1 (atFront.symm.trans otherAtFront)
          rw [sameText, inductionHypothesis spelledLater spelledOther]
        · exact (not_spelled_name_and_mark spelled spelledOthers).elim
        · exact (not_spelled_name_and_mark spelledOthers spelled).elim
        · obtain ⟨following, eaten, spelledLater⟩ := (spelled_mark_iff _ _ _ _).1 spelled
          obtain ⟨otherFollowing, otherEaten, spelledOther⟩ :=
            (spelled_mark_iff _ _ _ _).1 spelledOthers
          rw [eat?_eq_some_iff] at eaten otherEaten
          rw [eaten, List.cons.injEq] at otherEaten
          obtain ⟨sameCharacter, rfl⟩ := otherEaten
          rw [AnnotationMark.eq_of_character_eq sameCharacter,
            inductionHypothesis spelledLater spelledOther]

theorem Spells.unique {tokens others : List AnnotationToken} {text : String}
    (spells : Spells alphabet tokens text) (spellsOthers : Spells alphabet others text) :
    tokens = others := by
  obtain ⟨rest, spelled, onlyBlanks⟩ := spells
  obtain ⟨left, spelledOthers, onlyBlanksLeft⟩ := spellsOthers
  exact spelled.unique onlyBlanks spelledOthers onlyBlanksLeft

/-! ## Taking tokens off the front -/

/-- What is left of the characters after the tokens, if they stand at the front. -/
def afterTokens? (alphabet : Text.Alphabet) :
    List AnnotationToken → List Char → Option (List Char)
  | [], input => some input
  | .name text :: later, input =>
      if text.toList ≠ [] ∧ nameAtFront alphabet input = text.toList then
        afterTokens? alphabet later (afterName alphabet input)
      else
        none
  | .mark mark :: later, input =>
      (eat? mark.character input).bind (afterTokens? alphabet later)

theorem afterTokens?_eq_some_iff (tokens : List AnnotationToken) (input rest : List Char) :
    afterTokens? alphabet tokens input = some rest ↔ Spelled alphabet tokens input rest := by
  induction tokens generalizing input with
  | nil =>
      rw [afterTokens?, Option.some.injEq]
      constructor
      · rintro rfl
        exact .nil input
      · intro spelled
        cases spelled
        rfl
  | cons token later inductionHypothesis =>
      cases token with
      | name text =>
          rw [afterTokens?, spelled_name_iff, ← inductionHypothesis, ← and_assoc]
          split
          · next stands => exact (and_iff_right stands).symm
          · next absent => exact iff_of_false nofun fun both => absent both.1
      | mark mark =>
          rw [afterTokens?, spelled_mark_iff, Option.bind_eq_some_iff]
          simp only [inductionHypothesis]

theorem spells_iff (tokens : List AnnotationToken) (text : String) :
    Spells alphabet tokens text ↔
      (afterTokens? alphabet tokens text.toList).any (fun rest => rest.all Text.isBlank) =
        true := by
  simp only [Spells, ← afterTokens?_eq_some_iff, Option.any_eq_true, List.all_eq_true, AllBlank]

instance (tokens : List AnnotationToken) (text : String) :
    Decidable (Spells alphabet tokens text) :=
  decidable_of_iff _ (spells_iff tokens text).symm

end TypeExpr

end Recast
