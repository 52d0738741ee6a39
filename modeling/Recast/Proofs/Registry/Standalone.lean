import Recast.Proofs.Registry.Annotations

/-!
# Annotations on their own

Only declarations look the names in an annotation up.  On its own, an annotation stands for what is
read from it, and there every name is that of a record type.  Names of record types mean the same
either way, and so an annotation is structured on its own as in a declaration until it comes to a
name of a hook, which it does not find.  Below the name of a record type nothing is lost: the types
of the fields were looked up when the record type was declared.
-/

namespace Recast

variable {Payload : Type} [BEq Payload]

namespace Registry

/-- `MeetsHook registry written raw path name`: structuring the value as the annotation is written
comes, at the path, to a place where the annotation names the hook. -/
inductive MeetsHook (registry : Registry Payload) : TypeExpr → Value → Path → String → Prop
  | here {name : String} (raw : Value) :
      registry.hasHook name = true →
      MeetsHook registry (.record name) raw .root name
  | optional {inner : TypeExpr} {raw : Value} {path : Path} {name : String} :
      raw.isNull = false →
      MeetsHook registry inner raw path name →
      MeetsHook registry (.optional inner) raw path name
  | sequence {item : TypeExpr} {items : List Value} {position : Nat} {part : Value} {path : Path}
      {name : String} :
      items[position]? = some part →
      MeetsHook registry item part path name →
      MeetsHook registry (.sequence item) (.array items) (path.under (toString position)) name
  | set {item : TypeExpr} {items : List Value} {position : Nat} {part : Value} {path : Path}
      {name : String} :
      items[position]? = some part →
      MeetsHook registry item part path name →
      MeetsHook registry (.set item) (.array items) (path.under (toString position)) name
  | mapping {type : TypeExpr} {entries : Entries Value} {entry : String × Value} {path : Path}
      {name : String} :
      entry ∈ entries →
      MeetsHook registry type entry.2 path name →
      MeetsHook registry (.mapping .str type) (.map entries) (path.under entry.1) name

/-- Structuring the value as the annotation is written comes to no name of a hook. -/
def AvoidsHooks (registry : Registry Payload) (written : TypeExpr) (raw : Value) : Prop :=
  ∀ path name, ¬ registry.MeetsHook written raw path name

/-- The value is structured as it is as the type, but for names of hooks: they are not found. -/
structure AgreesOffHooks (registry : Registry Payload) (written type : TypeExpr) (raw : Value) :
    Prop where
  succeeds : ∀ value, registry.structureAs raw written = .ok value ↔
    registry.structureAs raw type = .ok value ∧ registry.AvoidsHooks written raw
  fails : ∀ error, registry.structureAs raw written = .error error →
    registry.structureAs raw type = .error error ∨
      ∃ path name, registry.MeetsHook written raw path name ∧ error = ⟨path, .unregistered name⟩

variable {alphabet : Text.Alphabet} {registry : Registry Payload}

/-! ## Which parts meet hooks -/

section MeetsHook

omit [BEq Payload]

theorem avoidsHooks_optional_iff (inner : TypeExpr) {raw : Value} (present : raw.isNull = false) :
    registry.AvoidsHooks (.optional inner) raw ↔ registry.AvoidsHooks inner raw := by
  constructor
  · intro avoids path name meets
    exact avoids path name (.optional present meets)
  · rintro avoids path name (_ | ⟨_, meets⟩)
    exact avoids path name meets

theorem avoidsHooks_sequence_iff (item : TypeExpr) (items : List Value) :
    registry.AvoidsHooks (.sequence item) (.array items) ↔
      ∀ part ∈ items, registry.AvoidsHooks item part := by
  constructor
  · intro avoids part member path name meets
    obtain ⟨position, found⟩ := List.mem_iff_getElem?.1 member
    exact avoids _ name (.sequence found meets)
  · rintro avoids _ name (_ | _ | ⟨found, meets⟩)
    exact avoids _ (List.mem_of_getElem? found) _ name meets

theorem avoidsHooks_set_iff (item : TypeExpr) (items : List Value) :
    registry.AvoidsHooks (.set item) (.array items) ↔
      ∀ part ∈ items, registry.AvoidsHooks item part := by
  constructor
  · intro avoids part member path name meets
    obtain ⟨position, found⟩ := List.mem_iff_getElem?.1 member
    exact avoids _ name (.set found meets)
  · rintro avoids _ name (_ | _ | _ | ⟨found, meets⟩)
    exact avoids _ (List.mem_of_getElem? found) _ name meets

theorem avoidsHooks_mapping_iff (type : TypeExpr) (entries : Entries Value) :
    registry.AvoidsHooks (.mapping .str type) (.map entries) ↔
      ∀ entry ∈ entries, registry.AvoidsHooks type entry.2 := by
  constructor
  · intro avoids entry member path name meets
    exact avoids _ name (.mapping member meets)
  · rintro avoids _ name (_ | _ | _ | _ | ⟨member, meets⟩)
    exact avoids _ member _ name meets

theorem MeetsHook.hasHook {written : TypeExpr} {raw : Value} {path : Path} {name : String}
    (meets : registry.MeetsHook written raw path name) :
    registry.hasHook name = true := by
  induction meets with
  | here raw isHook => exact isHook
  | _ => assumption

end MeetsHook

/-- No name of a hook is that of a record type. -/
theorem InOrder.hasRecord_eq_false (order : registry.InOrder alphabet) {name : String}
    (isHook : registry.hasHook name = true) :
    registry.hasRecord name = false := by
  rw [Bool.eq_false_iff]
  intro isRecord
  exact order.disjoint name ((hasRecord_iff name).1 isRecord) ((hasHook_iff name).1 isHook)

theorem InOrder.avoidsHooks_record (order : registry.InOrder alphabet) {name : String}
    (isRecord : registry.hasRecord name = true) (raw : Value) :
    registry.AvoidsHooks (.record name) raw := by
  rintro _ _ (⟨_, isHook⟩ | _)
  rw [order.hasRecord_eq_false isHook] at isRecord
  contradiction

/-! ## Agreement of the forms of types -/

namespace AgreesOffHooks

variable {written type : TypeExpr} {raw : Value}

theorem of_eq (same : registry.structureAs raw written = registry.structureAs raw type)
    (avoids : registry.AvoidsHooks written raw) :
    registry.AgreesOffHooks written type raw where
  succeeds _ := by rw [same, and_iff_left avoids]
  fails _ failed := .inl (same ▸ failed)

/-- What is done with structured parts afterwards makes no difference. -/
theorem of_map {α : Type} {change : α → Typed Payload}
    {writtenOutcome typeOutcome : Except StructureError α}
    (asWritten : registry.structureAs raw written = writtenOutcome.map change)
    (asType : registry.structureAs raw type = typeOutcome.map change)
    (succeed : ∀ parts, writtenOutcome = .ok parts ↔
      typeOutcome = .ok parts ∧ registry.AvoidsHooks written raw)
    (fail : ∀ error, writtenOutcome = .error error → typeOutcome = .error error ∨
      ∃ path name, registry.MeetsHook written raw path name ∧
        error = ⟨path, .unregistered name⟩) :
    registry.AgreesOffHooks written type raw where
  succeeds value := by
    simp only [asWritten, asType, Outcome.map_eq_ok_iff, succeed, and_right_comm, exists_and_right]
  fails error failed := by
    rw [asWritten, Outcome.map_eq_error_iff] at failed
    rw [asType, Outcome.map_eq_error_iff]
    exact fail error failed

/-- Annotations that agree off hooks have one outcome where no hook is met. -/
theorem eq_of_avoidsHooks (agrees : registry.AgreesOffHooks written type raw)
    (avoids : registry.AvoidsHooks written raw) :
    registry.structureAs raw written = registry.structureAs raw type := by
  cases outcome : registry.structureAs raw written with
  | ok value => exact ((agrees.succeeds value).1 outcome).1.symm
  | error error =>
      rcases agrees.fails error outcome with failed | ⟨path, name, meets, _⟩
      · exact failed.symm
      · exact absurd meets (avoids path name)

theorem optional (agrees : registry.AgreesOffHooks written type raw) :
    registry.AgreesOffHooks (.optional written) (.optional type) raw := by
  cases present : raw.isNull with
  | true =>
      refine .of_eq ?_ ?_
      · cases raw <;> first | contradiction | rfl
      · rintro path name (_ | ⟨notNull, _⟩)
        exact absurd notNull (by simp [present])
  | false =>
      constructor
      · intro value
        rw [structureAs_optional registry present, structureAs_optional registry present,
          avoidsHooks_optional_iff written present, agrees.succeeds]
      · intro error failed
        rw [structureAs_optional registry present] at failed ⊢
        refine (agrees.fails error failed).imp_right ?_
        rintro ⟨path, name, meets, rfl⟩
        exact ⟨path, name, .optional present meets, rfl⟩

/-- Items agree off hooks if each of them does. -/
theorem structureItems (items : List Value)
    (agrees : ∀ part ∈ items, registry.AgreesOffHooks written type part) :
    (∀ values,
      Candidate.structureItems written .root 0 (registry.itemCandidates items) = .ok values ↔
        Candidate.structureItems type .root 0 (registry.itemCandidates items) = .ok values ∧
          ∀ part ∈ items, registry.AvoidsHooks written part) ∧
      ∀ error,
        Candidate.structureItems written .root 0 (registry.itemCandidates items) = .error error →
          Candidate.structureItems type .root 0 (registry.itemCandidates items) = .error error ∨
            ∃ (position : Nat) (part : Value), items[position]? = some part ∧
              ∃ path name, registry.MeetsHook written part path name ∧
                error = ⟨path.under (toString position), .unregistered name⟩ := by
  constructor
  · intro values
    rw [structureItems_eq_ok_iff, structureItems_eq_ok_iff]
    constructor
    · rintro ⟨valueOf, each, rfl⟩
      have eachAgrees := fun part member =>
        ((agrees part member).succeeds (valueOf part)).1 (each part member)
      exact ⟨⟨valueOf, fun part member => (eachAgrees part member).1, rfl⟩,
        fun part member => (eachAgrees part member).2⟩
    · rintro ⟨⟨valueOf, each, rfl⟩, avoids⟩
      refine ⟨valueOf, fun part member => ?_, rfl⟩
      exact ((agrees part member).succeeds _).2 ⟨each part member, avoids part member⟩
  · intro error failed
    rw [structureItems_eq_error_iff] at failed ⊢
    refine failed.imp_or ?_ ?_
    · rintro part member ⟨value, structured⟩
      exact ⟨value, (((agrees part member).succeeds value).1 structured).1⟩
    · rintro position part member ⟨inner, partFailed, rfl⟩
      rw [Nat.zero_add]
      rcases (agrees part member).fails inner partFailed with still | ⟨path, name, meets, rfl⟩
      · exact .inl ⟨inner, still, rfl⟩
      · exact .inr ⟨path, name, meets, rfl⟩

/-- Entries agree off hooks if each of them does. -/
theorem structureEntries {entries : Entries Value}
    (agrees : ∀ entry ∈ entries, registry.AgreesOffHooks written type entry.2) :
    (∀ values,
      Candidate.structureEntries written .root (registry.entryCandidates entries) = .ok values ↔
        Candidate.structureEntries type .root (registry.entryCandidates entries) = .ok values ∧
          ∀ entry ∈ entries, registry.AvoidsHooks written entry.2) ∧
      ∀ error,
        Candidate.structureEntries written .root (registry.entryCandidates entries) = .error error →
          Candidate.structureEntries type .root (registry.entryCandidates entries) = .error error ∨
            ∃ (position : Nat) (entry : String × Value), entries[position]? = some entry ∧
              ∃ path name, registry.MeetsHook written entry.2 path name ∧
                error = ⟨path.under entry.1, .unregistered name⟩ := by
  constructor
  · intro values
    rw [structureEntries_eq_ok_iff, structureEntries_eq_ok_iff]
    constructor
    · rintro ⟨valueOf, each, rfl⟩
      have eachAgrees := fun entry member =>
        ((agrees entry member).succeeds (valueOf entry.2)).1 (each entry member)
      exact ⟨⟨valueOf, fun entry member => (eachAgrees entry member).1, rfl⟩,
        fun entry member => (eachAgrees entry member).2⟩
    · rintro ⟨⟨valueOf, each, rfl⟩, avoids⟩
      refine ⟨valueOf, fun entry member => ?_, rfl⟩
      exact ((agrees entry member).succeeds _).2 ⟨each entry member, avoids entry member⟩
  · intro error failed
    rw [structureEntries_eq_error_iff] at failed ⊢
    refine failed.imp_or ?_ ?_
    · rintro entry member ⟨value, structured⟩
      exact ⟨value, (((agrees entry member).succeeds value).1 structured).1⟩
    · rintro position entry member ⟨inner, entryFailed, rfl⟩
      rcases (agrees entry member).fails inner entryFailed with still | ⟨path, name, meets, rfl⟩
      · exact .inl ⟨inner, still, rfl⟩
      · exact .inr ⟨path, name, meets, rfl⟩

-- Values of the wrong kind are reported with the text of the type, in which no name is looked up.
variable (sameText : written.text = type.text)
include sameText

theorem sequence
    (agrees : ∀ part ∈ raw.parts, registry.AgreesOffHooks written type part) :
    registry.AgreesOffHooks (.sequence written) (.sequence type) raw := by
  cases raw with
  | array items =>
      obtain ⟨succeed, fail⟩ := AgreesOffHooks.structureItems items agrees
      refine .of_map rfl rfl ?_ fun error failed => (fail error failed).imp_right ?_
      · intro values
        rw [succeed, avoidsHooks_sequence_iff]
      · rintro ⟨position, part, partFound, path, name, meets, rfl⟩
        exact ⟨_, name, .sequence partFound meets, rfl⟩
  | _ =>
      refine .of_eq ?_ fun path name meets => by cases meets
      rw [structureAs_sequence_of_not_array registry written rfl,
        structureAs_sequence_of_not_array registry type rfl]
      simp only [TypeExpr.mismatch, TypeExpr.text, sameText]

theorem set
    (agrees : ∀ part ∈ raw.parts, registry.AgreesOffHooks written type part) :
    registry.AgreesOffHooks (.set written) (.set type) raw := by
  cases raw with
  | array items =>
      obtain ⟨succeed, fail⟩ := AgreesOffHooks.structureItems items agrees
      refine .of_map rfl rfl ?_ fun error failed => (fail error failed).imp_right ?_
      · intro values
        rw [succeed, avoidsHooks_set_iff]
      · rintro ⟨position, part, partFound, path, name, meets, rfl⟩
        exact ⟨_, name, .set partFound meets, rfl⟩
  | _ =>
      refine .of_eq ?_ fun path name meets => by cases meets
      rw [structureAs_set_of_not_array registry written rfl,
        structureAs_set_of_not_array registry type rfl]
      simp only [TypeExpr.mismatch, TypeExpr.text, sameText]

theorem mapping
    (agrees : ∀ part ∈ raw.parts, registry.AgreesOffHooks written type part) :
    registry.AgreesOffHooks (.mapping .str written) (.mapping .str type) raw := by
  cases raw with
  | map entries =>
      obtain ⟨succeed, fail⟩ := AgreesOffHooks.structureEntries fun entry member =>
        agrees entry.2 (Value.mem_parts_map member)
      refine .of_map rfl rfl ?_ fun error failed => (fail error failed).imp_right ?_
      · intro values
        rw [succeed, avoidsHooks_mapping_iff]
      · rintro ⟨position, entry, found, path, name, meets, rfl⟩
        exact ⟨_, name, .mapping (List.mem_of_getElem? found) meets, rfl⟩
  | _ =>
      refine .of_eq ?_ fun path name meets => by cases meets
      rw [structureAs_mapping_of_not_map registry .str written rfl,
        structureAs_mapping_of_not_map registry .str type rfl]
      simp only [TypeExpr.mismatch, TypeExpr.text, sameText]

end AgreesOffHooks

/-- A name of a hook is not found among the record types. -/
theorem InOrder.agreesOffHooks_custom (order : registry.InOrder alphabet) {name : String}
    (isHook : registry.hasHook name = true) (raw : Value) :
    registry.AgreesOffHooks (.record name) (.custom name) raw := by
  have unknown : registry.record? name = none :=
    Option.not_isSome_iff_eq_none.1 (Bool.eq_false_iff.1 (order.hasRecord_eq_false isHook))
  have notFound : registry.structureAs raw (.record name) =
      .error ⟨.root, .unregistered name⟩ := by
    rw [structureAs_record_eq, structureRecord, unknown]
    rfl
  constructor
  · intro value
    rw [notFound]
    constructor
    · intro impossible
      contradiction
    · rintro ⟨_, avoids⟩
      exact absurd (.here raw isHook) (avoids .root name)
  · intro error failed
    rw [notFound] at failed
    cases failed
    exact .inr ⟨.root, name, .here raw isHook, rfl⟩

/-- A known type that is not looked up agrees with itself off hooks. -/
theorem InOrder.agreesOffHooks (order : registry.InOrder alphabet) {type : TypeExpr}
    (known : registry.Knows type) (raw : Value) :
    registry.AgreesOffHooks type.unresolved type raw := by
  induction type, raw using TypeExpr.inductionWithParts Value.partsInduction with
  | optional inner raw inductionHypothesis =>
      exact (inductionHypothesis ((knows_optional_iff inner).1 known)).optional
  | scalar kind raw => exact .of_eq rfl nofun
  | any raw => exact .of_eq rfl nofun
  | sequence item raw inductionHypothesis =>
      have itemKnown := (knows_sequence_iff item).1 known
      exact .sequence item.text_unresolved fun part member =>
        inductionHypothesis part member item itemKnown
  | set item raw inductionHypothesis =>
      have itemKnown := (knows_set_iff item).1 known
      exact .set item.text_unresolved fun part member =>
        inductionHypothesis part member item itemKnown
  | mapping key value raw inductionHypothesis =>
      obtain ⟨rfl, valueKnown⟩ := (knows_mapping_iff key value).1 known
      exact .mapping value.text_unresolved fun part member =>
        inductionHypothesis part member value valueKnown
  | record name raw _ =>
      exact .of_eq rfl (order.avoidsHooks_record ((knows_record_iff name).1 known) raw)
  | custom name raw => exact order.agreesOffHooks_custom ((knows_custom_iff name).1 known) raw

/-! ## Looking names up adds hooks only -/

omit [BEq Payload] in
theorem unresolved_of_resolveName {record field name : String} {type : TypeExpr}
    (isResolved : registry.resolveName record field name = .ok type) :
    type.unresolved = .record name := by
  rw [resolveName] at isResolved
  split at isResolved
  · contradiction
  · split at isResolved
    · cases isResolved
      rfl
    · split at isResolved
      · cases isResolved
        rfl
      · contradiction

omit [BEq Payload] in
/-- What was read from a text is what its type is without look-up. -/
theorem unresolved_of_resolve {record field : String} {written type : TypeExpr}
    (printable : written.Printable alphabet)
    (isResolved : registry.resolve record field written = .ok type) :
    type.unresolved = written := by
  induction written generalizing type with
  | scalar kind =>
      cases isResolved
      rfl
  | any =>
      cases isResolved
      rfl
  | optional inner inductionHypothesis =>
      rw [resolve, Outcome.map_eq_ok_iff] at isResolved
      obtain ⟨innerResolved, isInner, rfl⟩ := isResolved
      rw [TypeExpr.unresolved, inductionHypothesis printable isInner]
  | sequence item inductionHypothesis =>
      rw [resolve, Outcome.map_eq_ok_iff] at isResolved
      obtain ⟨itemResolved, isItem, rfl⟩ := isResolved
      rw [TypeExpr.unresolved, inductionHypothesis printable isItem]
  | set item inductionHypothesis =>
      rw [resolve, Outcome.map_eq_ok_iff] at isResolved
      obtain ⟨itemResolved, isItem, rfl⟩ := isResolved
      rw [TypeExpr.unresolved, inductionHypothesis printable isItem]
  | mapping key value _ inductionHypothesis =>
      rw [resolve] at isResolved
      split at isResolved
      · next textKey =>
          rw [Outcome.map_eq_ok_iff] at isResolved
          obtain ⟨valueResolved, isValue, rfl⟩ := isResolved
          rw [TypeExpr.unresolved, inductionHypothesis printable.2 isValue, textKey]
          rfl
      · contradiction
  | record name => exact unresolved_of_resolveName isResolved
  | custom name => exact printable.elim

/-- The text of a declared field is read on its own too, and as what is read a value is structured
as it is as the type of the field, where the text comes to no hook.  Where it does, the value is
rejected, with the error it has as the type of the field or with that of a hook that is not found.
Hooks that the text comes to are all that is not found; with names looked up everything is. -/
theorem annotation_alone_misses_hooks_only (built : registry.Built alphabet) {spec : RecordSpec}
    {recordType : RecordType (Typed Payload)} {extended : Registry Payload}
    (declared : registry.declare alphabet spec = .ok (recordType, extended)) {name text : String}
    {default? : Option Value} (member : ⟨name, .written text, default?⟩ ∈ spec.fields)
    {field : Field (Typed Payload)} (found : recordType.field? name = some field) :
    ∃ written, TypeExpr.parse text alphabet = .ok written ∧
      ∀ raw,
        (registry.AvoidsHooks written raw →
          registry.structureAs raw written = registry.structureAs raw field.type) ∧
        (¬ registry.AvoidsHooks written raw →
          ∃ error, registry.structureAs raw written = .error error ∧
            (registry.structureAs raw field.type = .error error ∨
              ∃ path hook, registry.MeetsHook written raw path hook ∧
                error = ⟨path, .unregistered hook⟩)) ∧
        (∀ path missing,
          registry.structureAs raw written = .error ⟨path, .unregistered missing⟩ →
            registry.hasRecord missing = false ∧ registry.MeetsHook written raw path missing) ∧
        ∀ path missing,
          registry.structureAs raw field.type ≠ .error ⟨path, .unregistered missing⟩ := by
  have order := built.inOrder
  obtain ⟨written, _, read, declaredField, resolved⟩ := field?_of_declare declared member
  rw [found] at declaredField
  cases declaredField
  have known := knows_of_resolve resolved
  have isWritten := unresolved_of_resolve (TypeExpr.printable_of_parse read) resolved
  refine ⟨written, read, fun raw => ?_⟩
  have agrees := order.agreesOffHooks known raw
  rw [isWritten] at agrees
  have foundAll : ∀ path missing,
      registry.structureAs raw field.type ≠ .error ⟨path, .unregistered missing⟩ := by
    intro path missing failed
    exact (rejects_of_error order.distinctFields failed).fault_ne_unregistered order.closed known
      missing rfl
  refine ⟨agrees.eq_of_avoidsHooks, ?_, ?_, foundAll⟩
  · intro meetsSome
    cases outcome : registry.structureAs raw written with
    | ok value => exact absurd ((agrees.succeeds value).1 outcome).2 meetsSome
    | error error => exact ⟨error, rfl, agrees.fails error outcome⟩
  · intro path missing failed
    rcases agrees.fails _ failed with still | ⟨_, hook, meets, same⟩
    · exact absurd still (foundAll path missing)
    · cases same
      exact ⟨order.hasRecord_eq_false meets.hasHook, meets⟩

end Registry

/-! ## Tags in the declaration of an owner and on their own -/

namespace Sample

/-- Owners have tags too, and their types are written as texts. -/
def ownerSpec : RecordSpec where
  name := "Owner"
  isOpen := false
  fields := [⟨"tag", .written "Tag", none⟩, ⟨"others", .written "List[Tag]", none⟩]

def ownerType : RecordType (Typed String) where
  name := "Owner"
  isOpen := false
  fields := [
    ⟨"tag", .custom "Tag", none, some .present⟩,
    ⟨"others", .sequence (.custom "Tag"), none, some .nonEmpty⟩]

theorem parse_tag : TypeExpr.parse "Tag" = .ok (.record "Tag") :=
  TypeExpr.parse_text (show TypeExpr.Printable Text.unicode (.record "Tag") from ⟨by decide, rfl⟩)

theorem parse_tags : TypeExpr.parse "List[Tag]" = .ok (.sequence (.record "Tag")) :=
  TypeExpr.parse_text
    (show TypeExpr.Printable Text.unicode (.sequence (.record "Tag")) from ⟨by decide, rfl⟩)

theorem declare_owner :
    ∃ extended, registry.declare Text.unicode ownerSpec = .ok (ownerType, extended) := by
  simp only [Registry.declare, Registry.describe, ownerSpec, Registry.describeFields,
    Registry.describeField, Annotation.read, parse_tag, parse_tags]
  exact ⟨_, rfl⟩

/-- An empty list comes to no tag.  A list with a tag in it does, at the position of the tag. -/
theorem annotation_alone_misses_tags :
    registry.structureAs (.array []) (.sequence (.record "Tag")) =
        registry.structureAs (.array []) (.sequence (.custom "Tag")) ∧
      ∃ error, registry.structureAs (.array [.string "T-3"]) (.sequence (.record "Tag")) =
        .error error := by
  obtain ⟨extended, declared⟩ := declare_owner
  obtain ⟨written, read, agrees⟩ := Registry.annotation_alone_misses_hooks_only built_registry
    declared (List.mem_cons_of_mem _ List.mem_cons_self) rfl
  rw [parse_tags] at read
  cases read
  have meets : registry.MeetsHook (.sequence (.record "Tag")) (.array [.string "T-3"])
      (Path.root.under (toString 0)) "Tag" := .sequence rfl (.here _ rfl)
  obtain ⟨same, _⟩ := agrees (.array [])
  obtain ⟨_, fails, _⟩ := agrees (.array [.string "T-3"])
  refine ⟨same ?_, ?_⟩
  · exact (Registry.avoidsHooks_sequence_iff _ []).2 nofun
  · obtain ⟨error, failed, _⟩ := fails fun avoids => avoids _ _ meets
    exact ⟨error, failed⟩

/-- A tag is structured as the type of the field, and not as the annotation on its own, though there
is a hook of that name. -/
theorem tag_alone_is_not_found :
    ∃ extended field written, registry.declare Text.unicode ownerSpec = .ok (ownerType, extended) ∧
      ownerType.field? "tag" = some field ∧ TypeExpr.parse "Tag" = .ok written ∧
      registry.structureAs (.string "T-3") field.type = .ok (.custom "Tag" "T-3") ∧
      registry.structureAs (.string "T-3") written = .error ⟨.root, .unregistered "Tag"⟩ ∧
      registry.hasHook "Tag" = true := by
  obtain ⟨extended, declared⟩ := declare_owner
  exact ⟨extended, _, _, declared, rfl, parse_tag, rfl, rfl, rfl⟩

end Sample

end Recast
