import Recast.Proofs.Registry.Persistence
import Recast.Proofs.TypeExpr.Printing

/-!
# Declared types as annotations

An annotation does not tell custom types from record types: all names that are not built in are
read as names of record types, and are looked up afterwards.  No two declared types of a registry
share a name, and their names are identifiers, so the text of the type of a declared field is
resolved to that type.  A field can be declared by such a text as well as by the type.
-/

namespace Recast

variable {Payload : Type} [BEq Payload]

namespace TypeExpr

/-- The type as it is read from its text, with no name in it looked up. -/
def unresolved : TypeExpr → TypeExpr
  | .scalar kind => .scalar kind
  | .any => .any
  | .optional inner => .optional inner.unresolved
  | .sequence item => .sequence item.unresolved
  | .set item => .set item.unresolved
  | .mapping key value => .mapping key.unresolved value.unresolved
  | .record name => .record name
  | .custom name => .record name

theorem text_unresolved (type : TypeExpr) : type.unresolved.text = type.text := by
  induction type with
  | optional inner inductionHypothesis => rw [unresolved, text, text, inductionHypothesis]
  | sequence item inductionHypothesis => rw [unresolved, text, text, inductionHypothesis]
  | set item inductionHypothesis => rw [unresolved, text, text, inductionHypothesis]
  | mapping key value keyHypothesis valueHypothesis =>
      rw [unresolved, text, text, keyHypothesis, valueHypothesis]
  | _ => rfl

end TypeExpr

namespace Registry

/-- The text of the type stands for the type in declarations of the record type: it is read and
resolved to the type, and a field can be declared by it as well as by the type. -/
structure ReadsBack (alphabet : Text.Alphabet) (registry : Registry Payload) (record : String)
    (type : TypeExpr) : Prop where
  resolves : ∀ field, ∃ written, Annotation.read (.written type.text) alphabet = .ok written ∧
    registry.resolve record field written = .ok type
  declares : ∀ isOpen before name default? after,
    registry.declare alphabet
        ⟨record, isOpen, before ++ ⟨name, .written type.text, default?⟩ :: after⟩ =
      registry.declare alphabet ⟨record, isOpen, before ++ ⟨name, .tree type, default?⟩ :: after⟩
  hasType : ∀ isOpen before name default? after recordType extended,
    registry.declare alphabet
        ⟨record, isOpen, before ++ ⟨name, .written type.text, default?⟩ :: after⟩ =
        .ok (recordType, extended) →
      (recordType.field? name).map Field.type = some type

variable {alphabet : Text.Alphabet} {registry : Registry Payload}

/-! ## Names in declared types -/

theorem InOrder.isName (order : registry.InOrder alphabet) {name : String}
    (taken : registry.contains name = true) :
    TypeExpr.IsName alphabet name ∧ TypeExpr.isBuiltinName name = false := by
  rw [contains, Bool.or_eq_true, hasRecord_iff, hasHook_iff] at taken
  obtain ⟨identifier, notBuiltin⟩ := order.names name taken
  exact ⟨((Text.isIdentifier_iff name).1 identifier).continues, notBuiltin⟩

/-- Types that a registry in order knows can be written as annotations. -/
theorem InOrder.printable_unresolved (order : registry.InOrder alphabet) {type : TypeExpr}
    (known : registry.Knows type) :
    type.unresolved.Printable alphabet := by
  induction type with
  | scalar kind => trivial
  | any => trivial
  | optional inner inductionHypothesis =>
      exact inductionHypothesis ((knows_optional_iff inner).1 known)
  | sequence item inductionHypothesis =>
      exact inductionHypothesis ((knows_sequence_iff item).1 known)
  | set item inductionHypothesis => exact inductionHypothesis ((knows_set_iff item).1 known)
  | mapping key value _ inductionHypothesis =>
      obtain ⟨rfl, valueKnown⟩ := (knows_mapping_iff key value).1 known
      exact ⟨trivial, inductionHypothesis valueKnown⟩
  | record name =>
      have isRecord := (knows_record_iff name).1 known
      exact order.isName (by rw [contains, isRecord, Bool.true_or])
  | custom name =>
      have isHook := (knows_custom_iff name).1 known
      exact order.isName (by rw [contains, isHook, Bool.or_true])

/-! ## Looking names up -/

omit [BEq Payload] in
/-- Names are looked up alike, whether they are taken for names of record types or not. -/
theorem resolve_unresolved {record field : String} {type resolved : TypeExpr}
    (isResolved : registry.resolve record field type = .ok resolved) :
    registry.resolve record field type.unresolved = .ok resolved := by
  induction type generalizing resolved with
  | scalar kind => exact isResolved
  | any => exact isResolved
  | optional inner inductionHypothesis =>
      rw [resolve, Outcome.map_eq_ok_iff] at isResolved
      obtain ⟨innerResolved, isInner, rfl⟩ := isResolved
      rw [TypeExpr.unresolved, resolve, inductionHypothesis isInner]
      rfl
  | sequence item inductionHypothesis =>
      rw [resolve, Outcome.map_eq_ok_iff] at isResolved
      obtain ⟨itemResolved, isItem, rfl⟩ := isResolved
      rw [TypeExpr.unresolved, resolve, inductionHypothesis isItem]
      rfl
  | set item inductionHypothesis =>
      rw [resolve, Outcome.map_eq_ok_iff] at isResolved
      obtain ⟨itemResolved, isItem, rfl⟩ := isResolved
      rw [TypeExpr.unresolved, resolve, inductionHypothesis isItem]
      rfl
  | mapping key value _ inductionHypothesis =>
      rw [resolve] at isResolved
      split at isResolved
      · next textKey =>
          rw [Outcome.map_eq_ok_iff] at isResolved
          obtain ⟨valueResolved, isValue, rfl⟩ := isResolved
          have stillTextKey : TypeExpr.unresolved .str = .str := rfl
          rw [textKey, TypeExpr.unresolved, stillTextKey, resolve, if_pos rfl,
            inductionHypothesis isValue]
          rfl
      · contradiction
  | record name => exact isResolved
  | custom name => exact isResolved

/-- A type that a registry in order knows is what it resolves to, in the declaration of a record
type with a new name. -/
theorem InOrder.resolve_eq_self (order : registry.InOrder alphabet) {record : String}
    (fresh : registry.contains record = false) (field : String) {type : TypeExpr}
    (known : registry.Knows type) :
    registry.resolve record field type = .ok type := by
  obtain ⟨noRecord, noHook⟩ := Bool.or_eq_false_iff.1 fresh
  induction type with
  | scalar kind => rfl
  | any => rfl
  | optional inner inductionHypothesis =>
      rw [resolve, inductionHypothesis ((knows_optional_iff inner).1 known)]
      rfl
  | sequence item inductionHypothesis =>
      rw [resolve, inductionHypothesis ((knows_sequence_iff item).1 known)]
      rfl
  | set item inductionHypothesis =>
      rw [resolve, inductionHypothesis ((knows_set_iff item).1 known)]
      rfl
  | mapping key value _ inductionHypothesis =>
      obtain ⟨rfl, valueKnown⟩ := (knows_mapping_iff key value).1 known
      rw [resolve, if_pos rfl, inductionHypothesis valueKnown]
      rfl
  | record name =>
      have isRecord := (knows_record_iff name).1 known
      have otherName : name ≠ record := by
        rintro rfl
        exact Bool.eq_false_iff.1 noRecord isRecord
      rw [resolve, resolveName, if_neg otherName, if_pos isRecord]
  | custom name =>
      have isHook := (knows_custom_iff name).1 known
      have otherName : name ≠ record := by
        rintro rfl
        exact Bool.eq_false_iff.1 noHook isHook
      -- Record types are looked up first, and none of them has the name of a hook.
      have notRecord : ¬ registry.hasRecord name = true := fun isRecord =>
        order.disjoint name ((hasRecord_iff name).1 isRecord) ((hasHook_iff name).1 isHook)
      rw [resolve, resolveName, if_neg otherName, if_neg notRecord, if_pos isHook]

/-- The text of a known type is read and resolved to this type. -/
theorem InOrder.read_text (order : registry.InOrder alphabet) {record : String}
    (fresh : registry.contains record = false) (field : String) {type : TypeExpr}
    (known : registry.Knows type) :
    Annotation.read (.written type.text) alphabet = .ok type.unresolved ∧
      registry.resolve record field type.unresolved = .ok type := by
  have readAgain := TypeExpr.parse_text (order.printable_unresolved known)
  rw [TypeExpr.text_unresolved] at readAgain
  exact ⟨readAgain, resolve_unresolved (order.resolve_eq_self fresh field known)⟩

/-! ## Declaring by texts -/

/-- A field whose type is given by its text is described as if its type were given itself. -/
theorem InOrder.describeField_written (order : registry.InOrder alphabet) {record : String}
    (fresh : registry.contains record = false) {type : TypeExpr} (known : registry.Knows type)
    (earlier : List String) (name : String) (default? : Option Value) :
    registry.describeField alphabet record earlier ⟨name, .written type.text, default?⟩ =
      registry.describeField alphabet record earlier ⟨name, .tree type, default?⟩ := by
  obtain ⟨read, resolved⟩ := order.read_text fresh name known
  have resolvedItself := order.resolve_eq_self fresh name known
  have readItself : Annotation.read (.tree type) alphabet = .ok type := rfl
  simp only [describeField, read, readItself, Except.mapError, bind, Except.bind, resolved,
    resolvedItself]

theorem describeFields_congr {record : String} {spec other : FieldSpec}
    (same : ∀ earlier, registry.describeField alphabet record earlier spec =
      registry.describeField alphabet record earlier other)
    (sameName : spec.name = other.name) (earlier : List String) (before after : List FieldSpec) :
    registry.describeFields alphabet record earlier (before ++ spec :: after) =
      registry.describeFields alphabet record earlier (before ++ other :: after) := by
  induction before generalizing earlier with
  | nil => rw [List.nil_append, List.nil_append, describeFields, describeFields, same, sameName]
  | cons first rest inductionHypothesis =>
      rw [List.cons_append, List.cons_append, describeFields, describeFields]
      simp only [inductionHypothesis]

/-- Each declared field is described, in its place. -/
theorem exists_described {record : String} {earlier : List String} {specs : List FieldSpec}
    {fields : List (Field (Typed Payload))}
    (described : registry.describeFields alphabet record earlier specs = .ok fields)
    {spec : FieldSpec} (member : spec ∈ specs) :
    ∃ field ∈ fields, ∃ before, registry.describeField alphabet record before spec = .ok field := by
  induction specs generalizing earlier fields with
  | nil => contradiction
  | cons first rest inductionHypothesis =>
      simp only [describeFields, Outcome.bind_eq_ok_iff, Except.ok.injEq] at described
      obtain ⟨field, fieldOk, others, othersOk, rfl⟩ := described
      rcases List.mem_cons.1 member with rfl | later
      · exact ⟨field, List.mem_cons_self, earlier, fieldOk⟩
      · obtain ⟨other, otherMember, otherDescribed⟩ := inductionHypothesis othersOk later
        exact ⟨other, List.mem_cons_of_mem field otherMember, otherDescribed⟩

/-- Each declared field is found under its name, with the type that its annotation is resolved
to. -/
theorem field?_of_declare {extended : Registry Payload} {spec : RecordSpec}
    {recordType : RecordType (Typed Payload)}
    (declared : registry.declare alphabet spec = .ok (recordType, extended)) {fieldSpec : FieldSpec}
    (member : fieldSpec ∈ spec.fields) :
    ∃ written field, fieldSpec.type.read alphabet = .ok written ∧
      recordType.field? fieldSpec.name = some field ∧
      registry.resolve spec.name fieldSpec.name written = .ok field.type := by
  obtain ⟨fields, described, _, rfl, _⟩ := declare_eq_ok declared
  have distinct : RecordType.DistinctFields ⟨spec.name, spec.isOpen, fields⟩ :=
    (describeFields_eq_ok described).2.1
  obtain ⟨field, fieldMember, earlier, fieldOk⟩ := exists_described described member
  obtain ⟨_, _, written, type, default?, read, resolved, _, rfl⟩ := describeField_eq_ok fieldOk
  have found := (RecordType.field?_eq_some_iff distinct fieldSpec.name _).2 ⟨fieldMember, rfl⟩
  exact ⟨written, _, read, found, resolved⟩

/-- The text of a known type stands for the type in declarations of record types with new names. -/
theorem InOrder.readsBack (order : registry.InOrder alphabet) {record : String}
    (fresh : registry.contains record = false) {type : TypeExpr} (known : registry.Knows type) :
    registry.ReadsBack alphabet record type where
  resolves field := ⟨type.unresolved, order.read_text fresh field known⟩
  declares isOpen before name default? after := by
    have sameField : ∀ earlier,
        registry.describeField alphabet record earlier ⟨name, .written type.text, default?⟩ =
          registry.describeField alphabet record earlier ⟨name, .tree type, default?⟩ :=
      fun earlier => order.describeField_written fresh known earlier name default?
    have sameFields := describeFields_congr sameField rfl [] before after
    simp only [Registry.declare, Registry.describe, sameFields]
  hasType isOpen before name default? after recordType extended declared := by
    obtain ⟨written, field, readOk, found, resolvedOk⟩ :=
      field?_of_declare declared (List.mem_append_right before List.mem_cons_self)
    obtain ⟨read, resolved⟩ := order.read_text fresh name known
    rw [read] at readOk
    cases readOk
    rw [resolved] at resolvedOk
    cases resolvedOk
    rw [found]
    rfl

/-- Printing and reading types are inverse to each other: on all types that can be printed, which
are the types that are ever read, and, in declarations of new record types, on the types of all
declared fields. -/
theorem printing_inverts_reading (built : registry.Built alphabet) :
    (∀ type, TypeExpr.parse type.text alphabet = .ok type ↔ type.Printable alphabet) ∧
      (∀ source type, TypeExpr.parse source alphabet = .ok type →
        TypeExpr.parse type.text alphabet = .ok type) ∧
      ∀ recordType ∈ registry.records, ∀ field ∈ recordType.fields, ∀ record,
        registry.contains record = false → registry.ReadsBack alphabet record field.type := by
  have order := built.inOrder
  refine ⟨TypeExpr.parse_text_eq_ok_iff alphabet, ?_, ?_⟩
  · intro source type read
    exact TypeExpr.parse_text (TypeExpr.printable_of_parse read)
  · intro recordType member field fieldMember record fresh
    exact order.readsBack fresh (order.closed recordType member field fieldMember)

end Registry

/-! ## A field of an owner that is written like a field of pets -/

namespace Sample

/-- In the declaration of another record type, the text of the type of tags is resolved to the
custom type. -/
theorem printing_inverts_reading_tag :
    registry.contains "Owner" = false ∧
      TypeExpr.parse "Tag" = .ok (.record "Tag") ∧
      registry.ReadsBack Text.unicode "Owner" (.custom "Tag") ∧
      TypeExpr.parse "Dict[str, Optional[Pet]]" =
        .ok (.mapping .str (.optional (.record "Pet"))) := by
  obtain ⟨printed, _, readsBack⟩ := Registry.printing_inverts_reading built_registry
  have fresh : registry.contains "Owner" = false := by decide
  have tag := readsBack petType List.mem_cons_self ⟨"tag", .custom "Tag", none, some .present⟩
    (by simp [petType]) "Owner" fresh
  have tagPrintable : TypeExpr.Printable Text.unicode (.record "Tag") := ⟨by decide, rfl⟩
  have petPrintable : TypeExpr.Printable Text.unicode (.mapping .str (.optional (.record "Pet"))) :=
    ⟨trivial, by decide, rfl⟩
  exact ⟨fresh, (printed _).2 tagPrintable, tag, (printed _).2 petPrintable⟩

end Sample

end Recast
