import Recast.Proofs.TypeExpr.Grammar

/-!
# Types and their texts

The text of a type spells the tokens of a derivation of this type, so it is read as the type again.
This fails for types that no annotation is read as: those with custom types, which are told from
record types only when names are looked up, and those with record types under names that cannot be
written or are built in.
-/

namespace Recast

namespace TypeExpr

variable {alphabet : Text.Alphabet}

/-- The type can be written as an annotation: there are no custom types in it, and every record
type in it has a name that can be written and is not built in. -/
def Printable (alphabet : Text.Alphabet) : TypeExpr → Prop
  | .scalar _ => True
  | .any => True
  | .optional inner => inner.Printable alphabet
  | .sequence item => item.Printable alphabet
  | .set item => item.Printable alphabet
  | .mapping key value => key.Printable alphabet ∧ value.Printable alphabet
  | .record name => IsName alphabet name ∧ isBuiltinName name = false
  | .custom _ => False

/-- The tokens of a name with arguments. -/
def appliedTokens (name : String) (inside : List AnnotationToken) : List AnnotationToken :=
  .name name :: .mark .opening :: (inside ++ [.mark .closing])

/-- The characters of a name with arguments, without blanks around the brackets. -/
def appliedCharacters (name : String) (inside : List Char) : List Char :=
  name.toList ++ '[' :: (inside ++ [']'])

/-- The tokens in the text of a type. -/
def tokens : TypeExpr → List AnnotationToken
  | .scalar kind => [.name kind.text]
  | .any => [.name "Any"]
  | .optional inner => appliedTokens "Optional" inner.tokens
  | .sequence item => appliedTokens "List" item.tokens
  | .set item => appliedTokens "Set" item.tokens
  | .mapping key value => appliedTokens "Dict" (key.tokens ++ .mark .comma :: value.tokens)
  | .record name => [.name name]
  | .custom name => [.name name]

/-! ## Characters of texts -/

theorem toList_text_optional (inner : TypeExpr) :
    (optional inner).text.toList = appliedCharacters "Optional" inner.text.toList := by
  change ("Optional[" ++ inner.text ++ "]").toList = _
  simp [appliedCharacters]

theorem toList_text_sequence (item : TypeExpr) :
    (sequence item).text.toList = appliedCharacters "List" item.text.toList := by
  change ("List[" ++ item.text ++ "]").toList = _
  simp [appliedCharacters]

theorem toList_text_set (item : TypeExpr) :
    (set item).text.toList = appliedCharacters "Set" item.text.toList := by
  change ("Set[" ++ item.text ++ "]").toList = _
  simp [appliedCharacters]

theorem toList_text_mapping (key value : TypeExpr) :
    (mapping key value).text.toList =
      appliedCharacters "Dict" (key.text.toList ++ ',' :: ([' '] ++ value.text.toList)) := by
  change ("Dict[" ++ key.text ++ ", " ++ value.text ++ "]").toList = _
  simp [appliedCharacters]

/-! ## Texts spell tokens -/

instance (text : String) : Decidable (IsName alphabet text) :=
  decidable_of_iff (text.toList ≠ [] ∧ text.toList.all (isNameCharacter alphabet) = true)
    (and_congr_right fun _ => List.all_eq_true)

/-- Letters of ASCII continue a name in every alphabet. -/
theorem isName_of_ascii_letters {name : String} (notEmpty : name.toList ≠ [])
    (letters : name.toList.all (fun letter => letter.toNat < 0x80 && letter.isAlpha) = true) :
    IsName alphabet name := by
  refine ⟨notEmpty, fun letter member => ?_⟩
  obtain ⟨isAscii, isAlpha⟩ := Bool.and_eq_true_iff.1 (List.all_eq_true.1 letters letter member)
  rw [isNameCharacter, alphabet.isContinue_ascii letter (of_decide_eq_true isAscii),
    Char.isAlphanum, isAlpha]
  simp

theorem isName_of_isBuiltinName {name : String} (isBuiltin : isBuiltinName name = true) :
    IsName alphabet name := by
  have spelled : Builtin.names.all (fun entry => !entry.1.toList.isEmpty &&
      entry.1.toList.all fun letter => letter.toNat < 0x80 && letter.isAlpha) = true := by
    decide
  obtain ⟨builtin, known⟩ := Option.isSome_iff_exists.1 isBuiltin
  obtain ⟨notEmpty, letters⟩ := Bool.and_eq_true_iff.1 (List.all_eq_true.1 spelled _
    ((Builtin.ofName?_eq_some_iff name builtin).1 known))
  exact isName_of_ascii_letters (by simpa using notEmpty) letters

theorem isName_text (kind : Scalar) : IsName alphabet kind.text := by
  apply isName_of_isBuiltinName
  cases kind <;> rfl

theorem allBlank_nil : AllBlank [] := by
  simp [AllBlank]

theorem allBlank_space : AllBlank [' '] := by
  rw [AllBlank, List.forall_mem_singleton]
  decide

theorem endsName_nil (alphabet : Text.Alphabet) : EndsName alphabet [] := by
  simp [EndsName]

theorem endsName_mark (alphabet : Text.Alphabet) (mark : AnnotationMark) (rest : List Char) :
    EndsName alphabet (mark.character :: rest) := by
  intro character isFirst
  cases isFirst
  exact isNameCharacter_mark alphabet mark

theorem spelled_single {name : String} (isName : IsName alphabet name)
    {blanks following : List Char} (allBlank : AllBlank blanks)
    (ends : EndsName alphabet following) :
    Spelled alphabet [.name name] (blanks ++ (name.toList ++ following)) following :=
  @Spelled.cons _ (.name name) _ _ _ _ allBlank ⟨isName, ends⟩ (.nil following)

theorem spelled_mark {mark : AnnotationMark} {later : List AnnotationToken}
    {following rest : List Char} (spelled : Spelled alphabet later following rest) :
    Spelled alphabet (.mark mark :: later) (mark.character :: following) rest :=
  @Spelled.cons _ (.mark mark) _ [] _ _ allBlank_nil trivial spelled

theorem spelled_applied {name : String} (isName : IsName alphabet name)
    {inside : List AnnotationToken} {blanks text following : List Char}
    (allBlank : AllBlank blanks)
    (spelled : Spelled alphabet inside (text ++ ']' :: following) (']' :: following)) :
    Spelled alphabet (appliedTokens name inside)
      (blanks ++ (appliedCharacters name text ++ following)) following := by
  have closed : Spelled alphabet [.mark .closing] (']' :: following) following :=
    spelled_mark (.nil following)
  have opened : Spelled alphabet (.mark .opening :: (inside ++ [.mark .closing]))
      ('[' :: (text ++ ']' :: following)) following :=
    spelled_mark (spelled.append closed)
  have regrouped : appliedCharacters name text ++ following =
      name.toList ++ '[' :: (text ++ ']' :: following) := by
    simp [appliedCharacters]
  rw [regrouped]
  have stands : Stands alphabet ('[' :: (text ++ ']' :: following)) (.name name) :=
    ⟨isName, endsName_mark alphabet .opening _⟩
  exact @Spelled.cons _ (.name name) _ _ _ _ allBlank stands opened

/-- The text of a type spells its tokens after any blanks, if no name goes on behind it. -/
theorem spelled_text {type : TypeExpr} (printable : type.Printable alphabet)
    {blanks following : List Char} (allBlank : AllBlank blanks)
    (ends : EndsName alphabet following) :
    Spelled alphabet type.tokens (blanks ++ (type.text.toList ++ following)) following := by
  induction type generalizing blanks following with
  | scalar kind => exact spelled_single (isName_text kind) allBlank ends
  | any => exact spelled_single (isName_of_isBuiltinName rfl) allBlank ends
  | optional inner inductionHypothesis =>
      rw [toList_text_optional]
      exact spelled_applied (isName_of_isBuiltinName rfl) allBlank
        (inductionHypothesis printable allBlank_nil (endsName_mark alphabet .closing following))
  | sequence item inductionHypothesis =>
      rw [toList_text_sequence]
      exact spelled_applied (isName_of_isBuiltinName rfl) allBlank
        (inductionHypothesis printable allBlank_nil (endsName_mark alphabet .closing following))
  | set item inductionHypothesis =>
      rw [toList_text_set]
      exact spelled_applied (isName_of_isBuiltinName rfl) allBlank
        (inductionHypothesis printable allBlank_nil (endsName_mark alphabet .closing following))
  | mapping key value keyHypothesis valueHypothesis =>
      obtain ⟨keyPrintable, valuePrintable⟩ := printable
      -- The space behind the comma is a blank before the first token of the value.
      have spelledValue : Spelled alphabet value.tokens
          ([' '] ++ (value.text.toList ++ ']' :: following)) (']' :: following) :=
        valueHypothesis valuePrintable allBlank_space (endsName_mark alphabet .closing following)
      have spelledKey : Spelled alphabet key.tokens
          (key.text.toList ++ ',' :: ([' '] ++ (value.text.toList ++ ']' :: following)))
          (',' :: ([' '] ++ (value.text.toList ++ ']' :: following))) :=
        keyHypothesis keyPrintable allBlank_nil (endsName_mark alphabet .comma _)
      have inside := spelledKey.append (@spelled_mark _ .comma _ _ _ spelledValue)
      rw [toList_text_mapping]
      refine spelled_applied (isName_of_isBuiltinName rfl) allBlank ?_
      simpa only [List.append_assoc, List.cons_append] using inside
  | record name => exact spelled_single printable.1 allBlank ends
  | custom name => exact printable.elim

theorem spells_text {type : TypeExpr} (printable : type.Printable alphabet) :
    Spells alphabet type.tokens type.text := by
  have spelled := spelled_text printable allBlank_nil (endsName_nil alphabet)
  rw [List.nil_append, List.append_nil] at spelled
  exact ⟨[], spelled, allBlank_nil⟩

/-! ## Tokens of texts are derived -/

theorem derives_tokens {type : TypeExpr} (printable : type.Printable alphabet) :
    Derives type.tokens type := by
  induction type with
  | scalar kind =>
      cases kind with
      | str => exact .plain .str
      | int => exact .plain .int
      | float => exact .plain .float
      | bool => exact .plain .bool
  | any => exact .plain .any
  | optional inner inductionHypothesis =>
      exact .applied (.single (inductionHypothesis printable)) (.optional inner)
  | sequence item inductionHypothesis =>
      exact .applied (.single (inductionHypothesis printable)) (.sequence item (by decide))
  | set item inductionHypothesis =>
      exact .applied (.single (inductionHypothesis printable)) (.set item (by decide))
  | mapping key value keyHypothesis valueHypothesis =>
      obtain ⟨keyPrintable, valuePrintable⟩ := printable
      have derivesValue := valueHypothesis valuePrintable
      exact .applied (.cons (keyHypothesis keyPrintable) (.single derivesValue))
        (.mapping key value (by decide))
  | record name => exact .plain (.record printable.2)
  | custom name => exact printable.elim

/-! ## What is derived can be printed -/

theorem Denotes.printable {name : String} {arguments : List TypeExpr} {type : TypeExpr}
    (denotes : Denotes name arguments type) (isName : IsName alphabet name)
    (each : ∀ argument ∈ arguments, argument.Printable alphabet) :
    type.Printable alphabet := by
  cases denotes with
  | optional inner => exact each inner List.mem_cons_self
  | sequence item => exact each item List.mem_cons_self
  | set item => exact each item List.mem_cons_self
  | mapping key value =>
      exact ⟨each key List.mem_cons_self, each value (List.mem_cons_of_mem key List.mem_cons_self)⟩
  | record notBuiltin => exact ⟨isName, notBuiltin⟩
  | _ => trivial

/-- All names among the tokens are names in form. -/
def AllNames (alphabet : Text.Alphabet) (tokens : List AnnotationToken) : Prop :=
  ∀ text, .name text ∈ tokens → IsName alphabet text

mutual

theorem Derives.printable : ∀ {tokens : List AnnotationToken} {type : TypeExpr},
    Derives tokens type → AllNames alphabet tokens → type.Printable alphabet
  | _, _, @Derives.plain name _ denotes, allNames =>
      denotes.printable (allNames name List.mem_cons_self) (List.forall_mem_nil _)
  | _, _, @Derives.applied name inside arguments _ derives denotes, allNames => by
      have insideNames : AllNames alphabet inside := fun text member =>
        allNames text (List.mem_cons_of_mem _ (List.mem_cons_of_mem _
          (List.mem_append_left _ member)))
      exact denotes.printable (allNames name List.mem_cons_self) (derives.printable insideNames)

theorem DerivesArguments.printable :
    ∀ {tokens : List AnnotationToken} {arguments : List TypeExpr},
      DerivesArguments tokens arguments → AllNames alphabet tokens →
        ∀ argument ∈ arguments, argument.Printable alphabet
  | _, _, @DerivesArguments.single _ _ derives, allNames =>
      List.forall_mem_singleton.2 (derives.printable allNames)
  | _, _, @DerivesArguments.cons front later _ _ derives derivesOthers, allNames => by
      have frontNames : AllNames alphabet front := fun text member =>
        allNames text (List.mem_append_left _ member)
      have laterNames : AllNames alphabet later := fun text member =>
        allNames text (List.mem_append_right _ (List.mem_cons_of_mem _ member))
      exact List.forall_mem_cons.2
        ⟨derives.printable frontNames, derivesOthers.printable laterNames⟩

end

/-! ## Reading what is printed -/

theorem printable_of_parse {source : String} {type : TypeExpr}
    (read : parse source alphabet = .ok type) :
    type.Printable alphabet := by
  obtain ⟨tokens, ⟨rest, spelled, _⟩, derives⟩ := (parse_eq_ok_iff alphabet source type).1 read
  exact derives.printable fun _ member => spelled.isName member

theorem parse_text {type : TypeExpr} (printable : type.Printable alphabet) :
    parse type.text alphabet = .ok type :=
  (parse_eq_ok_iff alphabet type.text type).2
    ⟨type.tokens, spells_text printable, derives_tokens printable⟩

/-- The text of a type is read as this type exactly when the type can be printed. -/
theorem parse_text_eq_ok_iff (alphabet : Text.Alphabet) (type : TypeExpr) :
    parse type.text alphabet = .ok type ↔ type.Printable alphabet :=
  ⟨printable_of_parse, parse_text⟩

end TypeExpr

end Recast
