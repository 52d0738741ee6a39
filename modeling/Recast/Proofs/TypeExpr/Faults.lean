import Recast.Proofs.TypeExpr.Grammar

/-!
# Where annotations are at fault

Reading stops behind whole tokens.  Where the next token is missing or one too many, the error is
found there, behind the blanks.  Whether the arguments of a name are miscounted is known only after
they were read; the error is then the place where the reading of the type began, which is in front
of the blanks before the name.  So the offset of an error is that of a token, except where blanks
stand before a name with miscounted arguments.
-/

namespace Recast

/-- The name whose arguments are miscounted. -/
def AnnotationFault.miscounted? : AnnotationFault → Option String
  | .wrongArity name _ _ => some name
  | _ => none

namespace AnnotationError

/-- The offset of the error divides the source into two texts. -/
def Divides (error : AnnotationError) (before rest : String) : Prop :=
  error.source = before ++ rest ∧ error.offset = before.utf8ByteSize

/-- The offset of the error is that of a character which is no blank, or the end of the source, and
the name with miscounted arguments, if there is one, begins there. -/
def PointsAtToken (error : AnnotationError) : Prop :=
  ∃ before rest, error.Divides before rest ∧
    (∀ first, rest.toList.head? = some first → Text.isBlank first = false) ∧
    ∀ name, error.fault.miscounted? = some name → name.toList <+: rest.toList

end AnnotationError

/-! ## Sizes in bytes -/

namespace Text

theorem byteSize_eq_utf8ByteSize (characters : List Char) :
    byteSize characters = (String.ofList characters).utf8ByteSize := by
  induction characters with
  | nil => rfl
  | cons first rest inductionHypothesis =>
      rw [byteSize, inductionHypothesis, String.ofList_cons, String.utf8ByteSize_append,
        String.utf8ByteSize_singleton]

/-- How a text is divided can be told from the size of the front part. -/
theorem append_inj_of_utf8ByteSize_eq {front back otherFront otherBack : String}
    (same : front ++ back = otherFront ++ otherBack)
    (sameSize : front.utf8ByteSize = otherFront.utf8ByteSize) :
    front = otherFront ∧ back = otherBack := by
  have sameBytes : front.toByteArray ++ back.toByteArray =
      otherFront.toByteArray ++ otherBack.toByteArray := by
    rw [← String.toByteArray_append, same, String.toByteArray_append]
  have sameFront : front = otherFront :=
    String.toByteArray_inj.1 (ByteArray.append_inj_left sameBytes sameSize)
  rw [sameFront] at same
  exact ⟨sameFront, (String.append_right_inj otherFront).1 same⟩

end Text

namespace TypeExpr

variable {alphabet : Text.Alphabet}

/-! ## Where reading stops -/

/-- Reading stops with `left` left of the input: at the token that stands next, or in front of it if
it is a name with miscounted arguments. -/
inductive StopsAt (alphabet : Text.Alphabet) (left : List Char) : Stop → Prop
  | token {fault : AnnotationFault} :
      fault.miscounted? = none → StopsAt alphabet left ⟨Text.skipBlank left, fault⟩
  | name {text : String} {expected found : Nat} :
      text.toList ≠ [] →
      nameAtFront alphabet left = text.toList →
      StopsAt alphabet left ⟨left, .wrongArity text expected found⟩

theorem stopsAt_of_applyName {input : List Char} (named : nameAtFront alphabet input ≠ [])
    {arguments : List TypeExpr} {stop : Stop}
    (failed : applyName input (nameAtFront alphabet input) arguments = .error stop) :
    StopsAt alphabet input stop := by
  have isName := (String.toList_ofList (l := nameAtFront alphabet input)).symm
  rw [applyName] at failed
  split at failed
  · contradiction
  · cases failed
    exact .name (isName ▸ named) isName

/-- Tokens that stand between brackets stand behind the name and the opening bracket. -/
theorem spelled_inside {input inside left : List Char} (named : nameAtFront alphabet input ≠ [])
    (opened : eat? '[' (afterName alphabet input) = some inside) {tokens : List AnnotationToken}
    (spelled : Spelled alphabet tokens inside left) :
    Spelled alphabet
      (.name (String.ofList (nameAtFront alphabet input)) :: .mark .opening :: tokens)
      input left := by
  rw [spelled_name_iff, spelled_mark_iff, String.toList_ofList]
  exact ⟨named, rfl, inside, opened, spelled⟩

mutual

/-- Where no type can be read off the front, reading stops behind tokens. -/
theorem exists_stopsAt_of_readFront {input : List Char} {stop : Stop}
    (failed : readFront alphabet input = .error stop) :
    ∃ tokens left, Spelled alphabet tokens input left ∧ StopsAt alphabet left stop := by
  rw [readFront_eq] at failed
  split at failed
  · cases failed
    exact ⟨[], input, .nil input, .token rfl⟩
  · next named =>
      have nameShorter := length_afterName_lt named
      split at failed
      · rw [Outcome.map_eq_error_iff] at failed
        exact ⟨[], input, .nil input, stopsAt_of_applyName named failed⟩
      · next inside opened =>
          have openingShorter := length_lt_of_eat? opened
          rw [Outcome.bind_eq_error_iff] at failed
          rcases failed with failedInside | ⟨⟨arguments, after⟩, readInside, failedAfter⟩
          · obtain ⟨tokens, left, spelled, stopsAt⟩ :=
              exists_stopsAt_of_readFrontArguments failedInside
            exact ⟨_, left, spelled_inside named opened spelled, stopsAt⟩
          · dsimp only at failedAfter
            split at failedAfter
            · cases failedAfter
              obtain ⟨tokens, spelled, _⟩ := derivesArguments_of_readFrontArguments readInside
              exact ⟨_, after, spelled_inside named opened spelled, .token rfl⟩
            · -- The arguments are read, but too few or too many: the error is where the name was.
              rw [Outcome.map_eq_error_iff] at failedAfter
              exact ⟨[], input, .nil input, stopsAt_of_applyName named failedAfter⟩
termination_by 2 * input.length

theorem exists_stopsAt_of_readFrontArguments {input : List Char} {stop : Stop}
    (failed : readFrontArguments alphabet input = .error stop) :
    ∃ tokens left, Spelled alphabet tokens input left ∧ StopsAt alphabet left stop := by
  rw [readFrontArguments_eq, Outcome.bind_eq_error_iff] at failed
  rcases failed with failedFirst | ⟨⟨first, between⟩, readFirst, failedLater⟩
  · exact exists_stopsAt_of_readFront failedFirst
  · dsimp only at failedLater
    split at failedLater
    · contradiction
    · next following separated =>
        have firstShorter := length_lt_of_readFront readFirst
        have commaShorter := length_lt_of_eat? separated
        rw [Outcome.map_eq_error_iff] at failedLater
        obtain ⟨front, spelledFirst, _⟩ := derives_of_readFront readFirst
        obtain ⟨tokens, left, spelled, stopsAt⟩ :=
          exists_stopsAt_of_readFrontArguments failedLater
        have spelledLater : Spelled alphabet (.mark .comma :: tokens) between left :=
          (spelled_mark_iff .comma tokens between left).2 ⟨following, separated, spelled⟩
        exact ⟨_, left, spelledFirst.append spelledLater, stopsAt⟩
termination_by 2 * input.length + 1

end

/-- An annotation is rejected where no type can be read off its front, or else where something is
left behind the type. -/
theorem parse_eq_error_iff (alphabet : Text.Alphabet) (source : String) (error : AnnotationError) :
    parse source alphabet = .error error ↔
      ∃ stop : Stop, stop.locate source = error ∧
        (readFront alphabet source.toList = .error stop ∨
          ∃ type rest, readFront alphabet source.toList = .ok (type, rest) ∧
            Text.skipBlank rest ≠ [] ∧
            stop = ⟨Text.skipBlank rest, .trailing (String.ofList (Text.skipBlank rest))⟩) := by
  rw [parse, TypeExpr.readFront]
  cases readType alphabet source.toList with
  | error stop => simp [Except.map]
  | ok reading => cases left : Text.skipBlank reading.rest <;> simp [Except.map, left]

/-- The error of an annotation is found behind tokens, be it in its type or behind it. -/
theorem exists_stopsAt_of_parse {source : String} {error : AnnotationError}
    (failed : parse source alphabet = .error error) :
    ∃ tokens left stop, Spelled alphabet tokens source.toList left ∧ StopsAt alphabet left stop ∧
      stop.locate source = error := by
  obtain ⟨stop, located, failedFront | ⟨type, rest, read, _, rfl⟩⟩ :=
    (parse_eq_error_iff alphabet source error).1 failed
  · obtain ⟨tokens, left, spelled, stopsAt⟩ := exists_stopsAt_of_readFront failedFront
    exact ⟨tokens, left, stop, spelled, stopsAt, located⟩
  · obtain ⟨tokens, spelled, _⟩ := derives_of_readFront read
    exact ⟨tokens, rest, _, spelled, .token rfl, located⟩

end TypeExpr

/-! ## The offset of the error -/

namespace AnnotationError

open TypeExpr

variable {alphabet : Text.Alphabet}

/-- The source consists of tokens that were read, of blanks, and of what begins with the next token.
The offset of the error is before that token, and also before the blanks if the token is a name with
miscounted arguments. -/
structure FoundAt (alphabet : Text.Alphabet) (error : AnnotationError)
    (before blanks rest : String) : Prop where
  spelled : ∃ tokens, Spelled alphabet tokens error.source.toList (blanks ++ rest).toList
  allBlank : AllBlank blanks.toList
  atToken : ∀ first, rest.toList.head? = some first → Text.isBlank first = false
  token : error.fault.miscounted? = none → error.Divides (before ++ blanks) rest
  name : ∀ name, error.fault.miscounted? = some name →
    error.Divides before (blanks ++ rest) ∧ name ≠ "" ∧ name.toList <+: rest.toList

theorem divides_locate {source before : String} {stop : Stop}
    (divided : source = before ++ String.ofList stop.rest) :
    (stop.locate source).Divides before (String.ofList stop.rest) := by
  refine ⟨divided, ?_⟩
  rw [Stop.locate, Text.byteSize_eq_utf8ByteSize, Text.byteSize_eq_utf8ByteSize,
    String.ofList_toList, divided, String.utf8ByteSize_append, Nat.add_sub_cancel_right]

theorem exists_foundAt {source : String} {error : AnnotationError}
    (failed : parse source alphabet = .error error) :
    ∃ before blanks rest, error.FoundAt alphabet before blanks rest := by
  obtain ⟨tokens, left, stop, spelled, stopsAt, rfl⟩ := exists_stopsAt_of_parse failed
  obtain ⟨before, isSource⟩ := spelled.exists_eq_append
  obtain ⟨blanks, allBlank, isLeft⟩ := exists_blanks left
  have leftDivided : String.ofList left =
      String.ofList blanks ++ String.ofList (Text.skipBlank left) := by
    rw [← String.ofList_append, ← isLeft]
  have divided : source = String.ofList before ++ String.ofList left := by
    rw [← String.ofList_append, ← isSource, String.ofList_toList]
  refine ⟨String.ofList before, String.ofList blanks, String.ofList (Text.skipBlank left),
    ⟨tokens, ?_⟩, ?_, ?_, ?_, ?_⟩
  · rw [← leftDivided, String.toList_ofList]
    exact spelled
  · rw [String.toList_ofList]
    exact allBlank
  · intro first isFirst
    have stopped := List.head?_dropWhile_not Text.isBlank left
    rw [String.toList_ofList, Text.skipBlank] at isFirst
    rw [isFirst] at stopped
    exact stopped
  · intro notMiscounted
    cases stopsAt with
    | token _ =>
        rw [leftDivided, ← String.append_assoc] at divided
        exact divides_locate divided
    | name _ _ => contradiction
  · intro name isMiscounted
    cases stopsAt with
    | token notMiscounted =>
        rw [Stop.locate, notMiscounted] at isMiscounted
        contradiction
    | name notEmpty atFront =>
        cases isMiscounted
        rw [← leftDivided, String.toList_ofList, ← atFront]
        refine ⟨divides_locate divided, ?_, List.takeWhile_prefix _⟩
        rintro rfl
        exact notEmpty rfl

theorem FoundAt.exists_divides {error : AnnotationError} {before blanks rest : String}
    (found : error.FoundAt alphabet before blanks rest) :
    ∃ front back, error.Divides front back := by
  cases miscounted : error.fault.miscounted? with
  | none => exact ⟨_, _, found.token miscounted⟩
  | some name => exact ⟨_, _, (found.name name miscounted).1⟩

/-- Blanks before a name with miscounted arguments are all that keeps the offset from a token. -/
theorem FoundAt.pointsAtToken_iff {error : AnnotationError} {before blanks rest : String}
    (found : error.FoundAt alphabet before blanks rest) :
    error.PointsAtToken ↔ error.fault.miscounted? = none ∨ blanks = "" := by
  cases miscounted : error.fault.miscounted? with
  | none =>
      refine iff_of_true ⟨_, rest, found.token miscounted, found.atToken, ?_⟩ (.inl rfl)
      intro name isMiscounted
      rw [miscounted] at isMiscounted
      contradiction
  | some name =>
      obtain ⟨divides, _, inFront⟩ := found.name name miscounted
      rw [or_iff_right (Option.some_ne_none name)]
      constructor
      · rintro ⟨front, back, otherDivides, notBlank, _⟩
        obtain ⟨_, rfl⟩ := Text.append_inj_of_utf8ByteSize_eq
          (otherDivides.1.symm.trans divides.1) (otherDivides.2.symm.trans divides.2)
        rw [← String.toList_eq_nil_iff]
        cases characters : blanks.toList with
        | nil => rfl
        | cons first others =>
            have isBlank := found.allBlank first (characters ▸ List.mem_cons_self)
            have isNotBlank := notBlank first (by rw [String.toList_append, characters]; rfl)
            rw [isBlank] at isNotBlank
            contradiction
      · rintro rfl
        rw [String.empty_append] at divides
        refine ⟨before, rest, divides, found.atToken, ?_⟩
        intro other isMiscounted
        rw [miscounted] at isMiscounted
        cases isMiscounted
        exact inFront

/-- The offset of the error of a rejected annotation lies in the source and between two characters.
It is found behind tokens that were read, and is that of a token unless blanks stand behind them and
before a name with miscounted arguments. -/
theorem parse_error_points_at_token_iff {source : String} {error : AnnotationError}
    (failed : parse source alphabet = .error error) :
    error.source = source ∧ error.offset ≤ source.utf8ByteSize ∧
      String.Pos.Raw.IsValid source ⟨error.offset⟩ ∧
      ∃ before blanks rest, error.FoundAt alphabet before blanks rest ∧
        (error.PointsAtToken ↔ error.fault.miscounted? = none ∨ blanks = "") := by
  have sameSource : error.source = source := by
    obtain ⟨_, _, _, _, _, rfl⟩ := exists_stopsAt_of_parse failed
    rfl
  obtain ⟨before, blanks, rest, found⟩ := exists_foundAt failed
  obtain ⟨front, back, divided, offset⟩ := found.exists_divides
  have valid : String.Pos.Raw.IsValid source ⟨error.offset⟩ := by
    rw [String.Pos.Raw.isValid_iff_exists_append]
    exact ⟨front, back, sameSource ▸ divided, congrArg _ offset⟩
  exact ⟨sameSource, valid.le_utf8ByteSize, valid, before, blanks, rest, found,
    found.pointsAtToken_iff⟩

end AnnotationError

namespace Sample

/-- An argument is missing, behind a blank and behind characters of two bytes. -/
def missingArgument : AnnotationError :=
  ⟨"Größe[ ]", 9, .expectedName⟩

/-- An argument is missing, and the name has a blank before it. -/
def itemless : AnnotationError :=
  ⟨"Dict[str, List]", 9, .wrongArity "List" 1 0⟩

/-- The offset is that of the closing bracket, where a name is expected. -/
theorem missing_argument_points_at_bracket :
    TypeExpr.parse "Größe[ ]" = .error missingArgument ∧
      missingArgument.PointsAtToken := by
  have failed : TypeExpr.parse "Größe[ ]" = .error missingArgument :=
    (Outcome.error?_eq_some_iff _ _).1 (by decide +kernel)
  obtain ⟨_, _, _, _, _, _, _, pointsIff⟩ :=
    AnnotationError.parse_error_points_at_token_iff failed
  exact ⟨failed, pointsIff.2 (.inl rfl)⟩

/-- The offset is that of the blank, and not of the name behind it. -/
theorem itemless_points_at_blank :
    TypeExpr.parse "Dict[str, List]" = .error itemless ∧ ¬ itemless.PointsAtToken := by
  have failed : TypeExpr.parse "Dict[str, List]" = .error itemless :=
    (Outcome.error?_eq_some_iff _ _).1 (by decide +kernel)
  refine ⟨failed, ?_⟩
  rintro ⟨before, rest, ⟨divided, offset⟩, notBlank, _⟩
  have sourceParts : itemless.source = "Dict[str," ++ " List]" := by decide
  have frontSize : itemless.offset = "Dict[str,".utf8ByteSize := by decide
  obtain ⟨_, rfl⟩ := Text.append_inj_of_utf8ByteSize_eq (divided.symm.trans sourceParts)
    (offset.symm.trans frontSize)
  exact absurd (notBlank ' ' (by decide)) (by decide)

end Sample

end Recast
