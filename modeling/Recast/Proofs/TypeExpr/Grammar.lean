import Recast.Proofs.Entries.Agreement
import Recast.Proofs.Outcome
import Recast.Proofs.TypeExpr.Tokens

/-!
# The grammar of annotations

A type is a name, or a name with types between brackets, separated by commas; what a name denotes
depends on it and on its arguments, whose number it fixes.  The reader accepts exactly the texts
whose tokens are derived in this way, and yields the type of the derivation.  So the place of the
blanks between tokens does not matter.
-/

namespace Recast

/-! ## What names denote -/

namespace Builtin

theorem nodup_keys_names : (Entries.keys names).Nodup := by
  decide

theorem ofName?_eq_some_iff (name : String) (builtin : Builtin) :
    ofName? name = some builtin ↔ (name, builtin) ∈ names :=
  ⟨Entries.mem_of_lookup, Entries.lookup_of_mem nodup_keys_names⟩

end Builtin

namespace TypeExpr

/-- The type that a name with arguments denotes. -/
inductive Denotes : String → List TypeExpr → TypeExpr → Prop
  | str : Denotes "str" [] (.scalar .str)
  | int : Denotes "int" [] (.scalar .int)
  | float : Denotes "float" [] (.scalar .float)
  | bool : Denotes "bool" [] (.scalar .bool)
  | any : Denotes "Any" [] .any
  | optional (inner : TypeExpr) : Denotes "Optional" [inner] (.optional inner)
  | sequence {name : String} (item : TypeExpr) :
      name ∈ ["List", "list", "Sequence"] → Denotes name [item] (.sequence item)
  | set {name : String} (item : TypeExpr) :
      name ∈ ["Set", "set"] → Denotes name [item] (.set item)
  | mapping {name : String} (key value : TypeExpr) :
      name ∈ ["Dict", "dict", "Mapping"] → Denotes name [key, value] (.mapping key value)
  | record {name : String} : isBuiltinName name = false → Denotes name [] (.record name)

theorem denotes_of_make? {name : String} {builtin : Builtin} {arguments : List TypeExpr}
    {type : TypeExpr} (listed : (name, builtin) ∈ Builtin.names)
    (made : builtin.make? arguments = some type) :
    Denotes name arguments type := by
  revert made
  fun_cases Builtin.make? builtin arguments with
  | case1 kind =>
      rintro ⟨⟩
      cases kind with
      | str =>
          obtain rfl : name = "str" := by simpa [Builtin.names] using listed
          exact .str
      | int =>
          obtain rfl : name = "int" := by simpa [Builtin.names] using listed
          exact .int
      | float =>
          obtain rfl : name = "float" := by simpa [Builtin.names] using listed
          exact .float
      | bool =>
          obtain rfl : name = "bool" := by simpa [Builtin.names] using listed
          exact .bool
  | case2 =>
      rintro ⟨⟩
      obtain rfl : name = "Any" := by simpa [Builtin.names] using listed
      exact .any
  | case3 inner =>
      rintro ⟨⟩
      obtain rfl : name = "Optional" := by simpa [Builtin.names] using listed
      exact .optional inner
  | case4 item =>
      rintro ⟨⟩
      exact .sequence item (by simpa [Builtin.names] using listed)
  | case5 item =>
      rintro ⟨⟩
      exact .set item (by simpa [Builtin.names] using listed)
  | case6 key value =>
      rintro ⟨⟩
      exact .mapping key value (by simpa [Builtin.names] using listed)
  | case7 => nofun

/-- What is made of a name and arguments is what the name denotes with them. -/
theorem ofName?_eq_some_iff (name : String) (arguments : List TypeExpr) (type : TypeExpr) :
    ofName? name arguments = some type ↔ Denotes name arguments type := by
  constructor
  · intro made
    rw [ofName?] at made
    cases known : Builtin.ofName? name with
    | some builtin =>
        rw [known] at made
        exact denotes_of_make? ((Builtin.ofName?_eq_some_iff name builtin).1 known) made
    | none =>
        have notBuiltin : isBuiltinName name = false := by rw [isBuiltinName, known]; rfl
        cases arguments with
        | nil =>
            rw [known] at made
            cases made
            exact .record notBuiltin
        | cons first rest => simp [known] at made
  · have made : ∀ {builtin : Builtin}, (name, builtin) ∈ Builtin.names →
        ofName? name arguments = builtin.make? arguments := by
      intro builtin listed
      rw [ofName?, (Builtin.ofName?_eq_some_iff name builtin).2 listed]
    intro denotes
    cases denotes with
    | sequence item isAlias =>
        exact @made .sequence (by simpa [Builtin.names] using isAlias)
    | set item isAlias => exact @made .set (by simpa [Builtin.names] using isAlias)
    | mapping key value isAlias =>
        exact @made .mapping (by simpa [Builtin.names] using isAlias)
    | record notBuiltin =>
        rw [isBuiltinName, Option.isSome_eq_false_iff, Option.isNone_iff_eq_none] at notBuiltin
        rw [ofName?, notBuiltin]
        rfl
    | _ => rfl

/-! ## Derivations -/

mutual

/-- The tokens are derived as a type. -/
inductive Derives : List AnnotationToken → TypeExpr → Prop
  | plain {name : String} {type : TypeExpr} :
      Denotes name [] type →
      Derives [.name name] type
  | applied {name : String} {inside : List AnnotationToken} {arguments : List TypeExpr}
      {type : TypeExpr} :
      DerivesArguments inside arguments →
      Denotes name arguments type →
      Derives (.name name :: .mark .opening :: (inside ++ [.mark .closing])) type

/-- The tokens are derived as types separated by commas, of which there is one at least. -/
inductive DerivesArguments : List AnnotationToken → List TypeExpr → Prop
  | single {tokens : List AnnotationToken} {type : TypeExpr} :
      Derives tokens type →
      DerivesArguments tokens [type]
  | cons {tokens later : List AnnotationToken} {type : TypeExpr} {others : List TypeExpr} :
      Derives tokens type →
      DerivesArguments later others →
      DerivesArguments (tokens ++ .mark .comma :: later) (type :: others)

end

/-! ## One step of the reader -/

variable {alphabet : Text.Alphabet}

/-- What is read off the front of the input as a type, with the rest, or where reading stops. -/
def readFront (alphabet : Text.Alphabet) (input : List Char) :
    Except Stop (TypeExpr × List Char) :=
  (readType alphabet input).map fun reading => (reading.value, reading.rest)

/-- What is read off the front of the input as types separated by commas, with the rest, or where
reading stops. -/
def readFrontArguments (alphabet : Text.Alphabet) (input : List Char) :
    Except Stop (List TypeExpr × List Char) :=
  (readArguments alphabet input).map fun reading => (reading.value, reading.rest)

theorem readFront_eq (alphabet : Text.Alphabet) (input : List Char) :
    readFront alphabet input =
      if nameAtFront alphabet input = [] then
        .error ⟨Text.skipBlank input, .expectedName⟩
      else
        match eat? '[' (afterName alphabet input) with
        | none =>
            (applyName input (nameAtFront alphabet input) []).map (·, afterName alphabet input)
        | some inside =>
            readFrontArguments alphabet inside >>= fun (arguments, after) =>
              match eat? ']' after with
              | none => .error ⟨Text.skipBlank after, .expectedBracket⟩
              | some rest =>
                  (applyName input (nameAtFront alphabet input) arguments).map (·, rest) := by
  rw [readFront, readType]
  split
  · rfl
  · dsimp only
    split
    · next opened =>
        simp only [opened]
        cases applyName input (nameAtFront alphabet input) [] <;> rfl
    · next inside opened =>
        simp only [opened, readFrontArguments]
        cases readArguments alphabet inside with
        | error stop => rfl
        | ok arguments =>
            dsimp only
            split
            · next closed => simp only [Except.map, bind, Except.bind, closed]
            · next rest closed =>
                simp only [Except.map, bind, Except.bind, closed]
                cases applyName input (nameAtFront alphabet input) arguments.value <;> rfl

theorem readFrontArguments_eq (alphabet : Text.Alphabet) (input : List Char) :
    readFrontArguments alphabet input =
      readFront alphabet input >>= fun (first, between) =>
        match eat? ',' between with
        | none => .ok ([first], between)
        | some next =>
            (readFrontArguments alphabet next).map fun (others, rest) =>
              (first :: others, rest) := by
  rw [readFrontArguments, readFront, readArguments]
  cases readType alphabet input with
  | error stop => rfl
  | ok first =>
      dsimp only
      split
      · next separated =>
          simp only [Except.map, bind, Except.bind, separated]
      · next following separated =>
          simp only [Except.map, bind, Except.bind, separated, readFrontArguments]
          cases readArguments alphabet following <;> rfl

theorem length_lt_of_readFront {input rest : List Char} {type : TypeExpr}
    (read : readFront alphabet input = .ok (type, rest)) :
    rest.length < input.length := by
  obtain ⟨reading, _, isReading⟩ := (Outcome.map_eq_ok_iff _ _ _).1 read
  cases isReading
  exact reading.shorter

theorem applyName_eq_ok_iff (start name : List Char) (arguments : List TypeExpr)
    (type : TypeExpr) :
    applyName start name arguments = .ok type ↔
      Denotes (String.ofList name) arguments type := by
  rw [← ofName?_eq_some_iff, applyName]
  cases ofName? (String.ofList name) arguments <;> simp

theorem readFront_eq_ok_iff (alphabet : Text.Alphabet) (input : List Char) (type : TypeExpr)
    (rest : List Char) :
    readFront alphabet input = .ok (type, rest) ↔
      nameAtFront alphabet input ≠ [] ∧
        ((eat? '[' (afterName alphabet input) = none ∧
            Denotes (String.ofList (nameAtFront alphabet input)) [] type ∧
            afterName alphabet input = rest) ∨
          ∃ inside arguments after, eat? '[' (afterName alphabet input) = some inside ∧
            readFrontArguments alphabet inside = .ok (arguments, after) ∧
            eat? ']' after = some rest ∧
            Denotes (String.ofList (nameAtFront alphabet input)) arguments type) := by
  rw [readFront_eq]
  by_cases unnamed : nameAtFront alphabet input = []
  · simp [unnamed]
  · rw [if_neg unnamed, and_iff_right unnamed]
    cases opened : eat? '[' (afterName alphabet input) with
    | none => simp [Outcome.map_eq_ok_iff, applyName_eq_ok_iff]
    | some inside =>
        simp only [Outcome.bind_eq_ok_iff, Prod.exists, reduceCtorEq, false_and, false_or,
          Option.some.injEq, exists_and_left, exists_eq_left']
        refine exists_congr fun arguments => exists_congr fun after => and_congr_right fun _ => ?_
        cases closed : eat? ']' after with
        | none => simp
        | some left =>
            simp [Outcome.map_eq_ok_iff, applyName_eq_ok_iff, and_comm]

theorem readFrontArguments_eq_ok_iff (alphabet : Text.Alphabet) (input : List Char)
    (arguments : List TypeExpr) (rest : List Char) :
    readFrontArguments alphabet input = .ok (arguments, rest) ↔
      ∃ first between, readFront alphabet input = .ok (first, between) ∧
        ((eat? ',' between = none ∧ [first] = arguments ∧ between = rest) ∨
          ∃ next others, eat? ',' between = some next ∧
            readFrontArguments alphabet next = .ok (others, rest) ∧
            first :: others = arguments) := by
  rw [readFrontArguments_eq, Outcome.bind_eq_ok_iff, Prod.exists]
  refine exists_congr fun first => exists_congr fun between => and_congr_right fun _ => ?_
  cases separated : eat? ',' between with
  | none => simp [separated]
  | some following => simp [separated, Outcome.map_eq_ok_iff]

/-! ## What is read is derived -/

mutual

/-- What is read off the front stands there as tokens, which are derived as the type. -/
theorem derives_of_readFront {input rest : List Char} {type : TypeExpr}
    (read : readFront alphabet input = .ok (type, rest)) :
    ∃ tokens, Spelled alphabet tokens input rest ∧ Derives tokens type := by
  obtain ⟨named, ⟨_, denotes, isRest⟩ | ⟨inside, arguments, after, opened, readInside, closed,
    denotes⟩⟩ := (readFront_eq_ok_iff alphabet input type rest).1 read
  all_goals
    generalize isName : String.ofList (nameAtFront alphabet input) = name at denotes
    have characters : nameAtFront alphabet input = name.toList := by
      rw [← isName, String.toList_ofList]
    have notEmpty : name.toList ≠ [] := characters ▸ named
  · refine ⟨[.name name], ?_, .plain denotes⟩
    rw [spelled_name_iff, isRest]
    exact ⟨notEmpty, characters, .nil rest⟩
  · have nameShorter := length_afterName_lt named
    have openingShorter := length_lt_of_eat? opened
    obtain ⟨tokens, spelled, derives⟩ := derivesArguments_of_readFrontArguments readInside
    refine ⟨_, ?_, .applied derives denotes⟩
    have spelledClosing : Spelled alphabet [.mark .closing] after rest :=
      (spelled_mark_iff .closing [] after rest).2 ⟨rest, closed, .nil rest⟩
    rw [spelled_name_iff, spelled_mark_iff]
    exact ⟨notEmpty, characters, inside, opened, spelled.append spelledClosing⟩
termination_by 2 * input.length

theorem derivesArguments_of_readFrontArguments {input rest : List Char}
    {arguments : List TypeExpr} (read : readFrontArguments alphabet input = .ok (arguments, rest)) :
    ∃ tokens, Spelled alphabet tokens input rest ∧ DerivesArguments tokens arguments := by
  obtain ⟨first, between, readFirst, ⟨_, rfl, rfl⟩ | ⟨next, others, separated, readOthers, rfl⟩⟩ :=
    (readFrontArguments_eq_ok_iff alphabet input arguments rest).1 read
  · obtain ⟨tokens, spelled, derives⟩ := derives_of_readFront readFirst
    exact ⟨tokens, spelled, .single derives⟩
  · have firstShorter := length_lt_of_readFront readFirst
    have commaShorter := length_lt_of_eat? separated
    obtain ⟨tokens, spelled, derives⟩ := derives_of_readFront readFirst
    obtain ⟨later, spelledLater, derivesLater⟩ :=
      derivesArguments_of_readFrontArguments readOthers
    refine ⟨_, ?_, .cons derives derivesLater⟩
    exact spelled.append ((spelled_mark_iff .comma later between rest).2
      ⟨next, separated, spelledLater⟩)
termination_by 2 * input.length + 1

end

/-! ## What is derived is read -/

/-- Where one character is eaten, no other is. -/
theorem eat?_eq_none_of_eat? {expected other : Char} {input rest : List Char}
    (eaten : eat? expected input = some rest) (different : expected ≠ other) :
    eat? other input = none := by
  rw [eat?_eq_none_iff, (eat?_eq_some_iff _ _ _).1 eaten]
  intro left same
  exact different (List.cons.inj same).1

theorem eat?_eq_none_of_allBlank {input : List Char} (allBlank : AllBlank input)
    (expected : Char) :
    eat? expected input = none := by
  rw [eat?_eq_none_iff, (skipBlank_eq_nil_iff input).2 allBlank]
  intro left same
  contradiction

mutual

/-- Tokens that are derived as a type are read as it, if no bracket opens after them. -/
theorem Derives.readFront_eq_ok : ∀ {tokens : List AnnotationToken} {type : TypeExpr},
    Derives tokens type → ∀ {input rest : List Char}, Spelled alphabet tokens input rest →
      eat? '[' rest = none → readFront alphabet input = .ok (type, rest)
  | _, type, @Derives.plain name _ denotes, input, rest, spelled, notOpened => by
      obtain ⟨notEmpty, characters, spelledNothing⟩ :=
        (spelled_name_iff name [] input rest).1 spelled
      cases spelledNothing
      rw [readFront_eq_ok_iff, characters, String.ofList_toList]
      exact ⟨notEmpty, .inl ⟨notOpened, denotes, rfl⟩⟩
  | _, type, @Derives.applied name tokens arguments _ derives denotes, input, rest, spelled, _ => by
      obtain ⟨notEmpty, characters, spelledLater⟩ := (spelled_name_iff name _ input rest).1 spelled
      obtain ⟨inside, opened, spelledInside⟩ := (spelled_mark_iff .opening _ _ _).1 spelledLater
      obtain ⟨after, spelledArguments, spelledClosing⟩ :=
        (spelled_append_iff tokens _ inside rest).1 spelledInside
      obtain ⟨_, closed, spelledNothing⟩ :=
        (spelled_mark_iff .closing [] after rest).1 spelledClosing
      cases spelledNothing
      -- The closing bracket ends the arguments: none of them goes on, and no other one follows.
      have noBracket : eat? '[' after = none := eat?_eq_none_of_eat? closed (by decide)
      have noComma : eat? ',' after = none := eat?_eq_none_of_eat? closed (by decide)
      have readInside := derives.readFrontArguments_eq_ok spelledArguments noBracket noComma
      rw [readFront_eq_ok_iff, characters, String.ofList_toList]
      exact ⟨notEmpty, .inr ⟨inside, arguments, after, opened, readInside, closed, denotes⟩⟩

theorem DerivesArguments.readFrontArguments_eq_ok :
    ∀ {tokens : List AnnotationToken} {arguments : List TypeExpr},
      DerivesArguments tokens arguments → ∀ {input rest : List Char},
        Spelled alphabet tokens input rest → eat? '[' rest = none → eat? ',' rest = none →
          readFrontArguments alphabet input = .ok (arguments, rest)
  | _, _, @DerivesArguments.single _ type derives, input, rest, spelled, notOpened,
      notContinued => by
      rw [readFrontArguments_eq_ok_iff]
      exact ⟨type, rest, derives.readFront_eq_ok spelled notOpened,
        .inl ⟨notContinued, rfl, rfl⟩⟩
  | _, _, @DerivesArguments.cons front _ type others derives derivesOthers, input, rest, spelled,
      notOpened, notContinued => by
      obtain ⟨between, spelledFirst, spelledLater⟩ :=
        (spelled_append_iff front _ input rest).1 spelled
      obtain ⟨next, separated, spelledOthers⟩ := (spelled_mark_iff .comma _ _ _).1 spelledLater
      have noBracket : eat? '[' between = none := eat?_eq_none_of_eat? separated (by decide)
      have readFirst := derives.readFront_eq_ok spelledFirst noBracket
      have readOthers :=
        derivesOthers.readFrontArguments_eq_ok spelledOthers notOpened notContinued
      rw [readFrontArguments_eq_ok_iff]
      exact ⟨type, between, readFirst, .inr ⟨next, others, separated, readOthers, rfl⟩⟩

end

/-! ## Whole annotations -/

theorem parse_eq_ok_iff_readFront (alphabet : Text.Alphabet) (source : String) (type : TypeExpr) :
    parse source alphabet = .ok type ↔
      ∃ rest, readFront alphabet source.toList = .ok (type, rest) ∧ AllBlank rest := by
  simp only [← skipBlank_eq_nil_iff]
  rw [parse, TypeExpr.readFront]
  cases readType alphabet source.toList with
  | error stop => simp [Except.map]
  | ok reading =>
      cases left : Text.skipBlank reading.rest <;> simp [Except.map, left]

/-- A text is read as a type exactly when its tokens are derived as the type. -/
theorem parse_eq_ok_iff (alphabet : Text.Alphabet) (source : String) (type : TypeExpr) :
    parse source alphabet = .ok type ↔
      ∃ tokens, Spells alphabet tokens source ∧ Derives tokens type := by
  rw [parse_eq_ok_iff_readFront]
  constructor
  · rintro ⟨rest, read, allBlank⟩
    obtain ⟨tokens, spelled, derives⟩ := derives_of_readFront read
    exact ⟨tokens, ⟨rest, spelled, allBlank⟩, derives⟩
  · rintro ⟨tokens, ⟨rest, spelled, allBlank⟩, derives⟩
    exact ⟨rest, derives.readFront_eq_ok spelled (eat?_eq_none_of_allBlank allBlank '['), allBlank⟩

/-- An annotation is accepted exactly when its tokens are derived as a type, and is read as that
type.  Annotations with the same tokens are read alike, wherever blanks stand in them. -/
theorem accepts_exactly_grammar (alphabet : Text.Alphabet) :
    (∀ source type, parse source alphabet = .ok type ↔
      ∃ tokens, Spells alphabet tokens source ∧ Derives tokens type) ∧
    ∀ tokens source other, Spells alphabet tokens source → Spells alphabet tokens other →
      ∀ type, parse source alphabet = .ok type ↔ parse other alphabet = .ok type := by
  refine ⟨parse_eq_ok_iff alphabet, fun tokens source other spells spellsOther type => ?_⟩
  rw [parse_eq_ok_iff, parse_eq_ok_iff]
  have sameTokens : ∀ candidates,
      Spells alphabet candidates source ↔ Spells alphabet candidates other := by
    intro candidates
    constructor
    · intro spellsCandidates
      exact spells.unique spellsCandidates ▸ spellsOther
    · intro spellsCandidates
      exact spellsOther.unique spellsCandidates ▸ spells
  simp only [sameTokens]

end TypeExpr

namespace Sample

open TypeExpr

def petsByNameTokens : List AnnotationToken :=
  [.name "Dict", .mark .opening, .name "str", .mark .comma, .name "List", .mark .opening,
    .name "Pet", .mark .closing, .mark .closing]

/-- Two texts with the same tokens are read as the same type, which is derived from them. -/
theorem accepts_petsByName :
    Spells Text.unicode petsByNameTokens "Dict[str,List[Pet]]" ∧
      Spells Text.unicode petsByNameTokens " Dict [str, List[ Pet ]\t] " ∧
      parse "Dict[str,List[Pet]]" = .ok (.mapping .str (.sequence (.record "Pet"))) ∧
      parse " Dict [str, List[ Pet ]\t] " =
        .ok (.mapping .str (.sequence (.record "Pet"))) := by
  have spells : Spells Text.unicode petsByNameTokens "Dict[str,List[Pet]]" := by decide
  have spellsWithBlanks : Spells Text.unicode petsByNameTokens " Dict [str, List[ Pet ]\t] " := by
    decide
  have pet : Derives [.name "Pet"] (.record "Pet") := .plain (.record (by decide))
  have pets : Derives [.name "List", .mark .opening, .name "Pet", .mark .closing]
      (.sequence (.record "Pet")) :=
    .applied (.single pet) (.sequence _ (by decide))
  have derives : Derives petsByNameTokens (.mapping .str (.sequence (.record "Pet"))) :=
    .applied (.cons (.plain .str) (.single pets)) (.mapping _ _ (by decide))
  obtain ⟨accepts, sameReading⟩ := accepts_exactly_grammar Text.unicode
  have read := (accepts _ _).2 ⟨petsByNameTokens, spells, derives⟩
  exact ⟨spells, spellsWithBlanks, read, (sameReading _ _ _ spells spellsWithBlanks _).1 read⟩

end Sample

end Recast
