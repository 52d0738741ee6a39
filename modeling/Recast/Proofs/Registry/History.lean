import Mathlib.Data.List.Induction
import Recast.Proofs.Registry.Built
import Recast.Proofs.Registry.Extension
import Recast.Proofs.Registry.Rejects

/-!
# Registries after any history of declarations

A registry starts out empty and is changed by declarations of record types and hooks, of which
some fail.  Whatever the history, the registry is in order: names are unambiguous, record types
refer to earlier ones only, and defaults are what they were when they were declared.
-/

namespace Recast

variable {Payload : Type} [BEq Payload]

/-- What a host asks a registry to add. -/
inductive Declaration (Payload : Type) where
  | record (spec : RecordSpec)
  | hook (name : String) (hook : Hook Payload)

namespace Registry

/-- The registry with what is declared, unless the declaration fails. -/
def accept (alphabet : Text.Alphabet) (registry : Registry Payload) :
    Declaration Payload → Except DeclarationError (Registry Payload)
  | .record spec => (registry.declare alphabet spec).map Prod.snd
  | .hook name hook => registry.register alphabet name hook

/-- The registry after a declaration; one that fails leaves it as it was. -/
def perform (alphabet : Text.Alphabet) (registry : Registry Payload)
    (declaration : Declaration Payload) : Registry Payload :=
  match registry.accept alphabet declaration with
  | .ok extended => extended
  | .error _ => registry

/-- The registry after all declarations of a history. -/
def run (alphabet : Text.Alphabet) (history : List (Declaration Payload)) : Registry Payload :=
  history.foldl (perform alphabet) {}

/-- One record type has a field whose type names the other. -/
def Refers (registry : Registry Payload) (inner outer : String) : Prop :=
  ∃ recordType, registry.record? outer = some recordType ∧
    ∃ field ∈ recordType.fields, Occurs TypeExpr.parts (.record inner) field.type

end Registry

/-! ## Order -/

/-- A record type is in order in a registry in which the given record types are the earlier
ones. -/
structure RecordType.InOrder (alphabet : Text.Alphabet) (registry : Registry Payload)
    (earlier : List (RecordType (Typed Payload))) (recordType : RecordType (Typed Payload)) :
    Prop where
  fieldNames : ∀ field ∈ recordType.fields, Text.isIdentifier alphabet field.name = true
  distinctFields : recordType.DistinctFields
  textKeys : ∀ field ∈ recordType.fields, ∀ key value,
    Occurs TypeExpr.parts (.mapping key value) field.type → key = .str
  recordsEarlier : ∀ field ∈ recordType.fields, ∀ name,
    Occurs TypeExpr.parts (.record name) field.type → name ∈ earlier.map RecordType.name
  hooksRegistered : ∀ field ∈ recordType.fields, ∀ name,
    Occurs TypeExpr.parts (.custom name) field.type → registry.hasHook name = true
  validators : ∀ field ∈ recordType.fields,
    field.validator? =
      if field.default?.isSome then none else Validator.compile field.type
  defaults : ∀ field ∈ recordType.fields, ∀ default, field.default? = some default →
    registry.structureAs default.raw field.type = .ok default.typed

/-- What declarations keep true of a registry. -/
structure Registry.InOrder (alphabet : Text.Alphabet) (registry : Registry Payload) : Prop where
  distinctRecords : registry.recordNames.Nodup
  distinctHooks : (Entries.keys registry.hooks).Nodup
  disjoint : ∀ name ∈ registry.recordNames, name ∉ Entries.keys registry.hooks
  /-- Every name is an identifier and is not built in. -/
  names : ∀ name, name ∈ registry.recordNames ∨ name ∈ Entries.keys registry.hooks →
    Text.isIdentifier alphabet name = true ∧ TypeExpr.isBuiltinName name = false
  /-- A record type is found under its own name and under no other. -/
  found : ∀ name recordType, registry.record? name = some recordType ↔
    recordType ∈ registry.records ∧ recordType.name = name
  records : ∀ earlier recordType later, registry.records = earlier ++ recordType :: later →
    recordType.InOrder alphabet registry earlier

/-- What later registries add does not disturb a record type whose fields have known types. -/
theorem RecordType.InOrder.mono {registry extended : Registry Payload} (closed : registry.Closed)
    (extension : registry.Extends extended) {earlier : List (RecordType (Typed Payload))}
    {recordType : RecordType (Typed Payload)}
    (known : ∀ field ∈ recordType.fields, registry.Knows field.type)
    (inOrder : recordType.InOrder alphabet registry earlier) :
    recordType.InOrder alphabet extended earlier :=
  { inOrder with
    hooksRegistered := fun field member name occurs =>
      extension.hasHook (inOrder.hooksRegistered field member name occurs)
    defaults := by
      intro field member default declared
      rw [Registry.structureAs_of_extends closed extension (known field member).resolves]
      exact inOrder.defaults field member default declared }

namespace Registry

variable {alphabet : Text.Alphabet} {registry extended : Registry Payload}

omit [BEq Payload] in
theorem hasRecord_iff (name : String) :
    registry.hasRecord name = true ↔ name ∈ registry.recordNames := by
  rw [hasRecord, record?, List.find?_isSome, recordNames, List.mem_map]
  simp only [beq_iff_eq]

omit [BEq Payload] in
theorem hasHook_iff (name : String) :
    registry.hasHook name = true ↔ name ∈ Entries.keys registry.hooks :=
  Entries.isSome_lookup_iff registry.hooks name

omit [BEq Payload] in
theorem contains_eq_false_iff (name : String) :
    registry.contains name = false ↔
      name ∉ registry.recordNames ∧ name ∉ Entries.keys registry.hooks := by
  rw [contains, Bool.or_eq_false_iff, ← hasRecord_iff, ← hasHook_iff]
  simp only [Bool.not_eq_true]

omit [BEq Payload] in
/-- Where names are distinct, a record type is found under its name. -/
theorem record?_eq_some_iff (distinct : registry.recordNames.Nodup) (name : String)
    (recordType : RecordType (Typed Payload)) :
    registry.record? name = some recordType ↔
      recordType ∈ registry.records ∧ recordType.name = name := by
  refine ⟨record?_eq_some, ?_⟩
  rintro ⟨member, rfl⟩
  have known : registry.hasRecord recordType.name = true :=
    (hasRecord_iff _).2 (List.mem_map_of_mem member)
  obtain ⟨other, found⟩ := Option.isSome_iff_exists.1 known
  obtain ⟨otherMember, sameName⟩ := record?_eq_some found
  rw [found, List.inj_on_of_nodup_map distinct otherMember member sameName]

theorem InOrder.of_mem (order : registry.InOrder alphabet) {recordType : RecordType (Typed Payload)}
    (member : recordType ∈ registry.records) :
    ∃ earlier, recordType.InOrder alphabet registry earlier := by
  obtain ⟨earlier, later, split⟩ := List.append_of_mem member
  exact ⟨earlier, order.records earlier recordType later split⟩

theorem InOrder.distinctFields (order : registry.InOrder alphabet) :
    ∀ recordType ∈ registry.records, recordType.DistinctFields := by
  intro recordType member
  obtain ⟨_, inOrder⟩ := order.of_mem member
  exact inOrder.distinctFields

/-- A registry in order knows the types of all fields. -/
theorem InOrder.closed (order : registry.InOrder alphabet) : registry.Closed := by
  intro recordType member field fieldMember part occurs
  obtain ⟨earlier, later, split⟩ := List.append_of_mem member
  have inOrder := order.records earlier recordType later split
  cases part with
  | mapping key value => exact inOrder.textKeys field fieldMember key value occurs
  | record name =>
      have isEarlier := inOrder.recordsEarlier field fieldMember name occurs
      rw [KnowsHere, hasRecord_iff, recordNames, split, List.map_append]
      exact List.mem_append_left _ isEarlier
  | custom name => exact inOrder.hooksRegistered field fieldMember name occurs
  | _ => trivial

theorem InOrder.kept (order : registry.InOrder alphabet) (extension : registry.Extends extended)
    {earlier later : List (RecordType (Typed Payload))} {recordType : RecordType (Typed Payload)}
    (split : registry.records = earlier ++ recordType :: later) :
    recordType.InOrder alphabet extended earlier := by
  refine (order.records earlier recordType later split).mono order.closed extension ?_
  exact order.closed recordType (split ▸ List.mem_append_cons_self)

/-! ## Declarations keep a registry in order -/

theorem inOrder_empty (alphabet : Text.Alphabet) : InOrder alphabet ({} : Registry Payload) where
  distinctRecords := List.nodup_nil
  distinctHooks := List.nodup_nil
  disjoint _ member := absurd member List.not_mem_nil
  names _ member := absurd member (by simp [recordNames, Entries.keys])
  found := record?_eq_some_iff List.nodup_nil
  records earlier recordType later split := by simp at split

/-- A record type that is described for a registry in order is in order there. -/
theorem inOrder_of_describeFields {spec : RecordSpec} {fields : List (Field (Typed Payload))}
    (described : registry.describeFields alphabet spec.name [] spec.fields = .ok fields) :
    RecordType.InOrder alphabet registry registry.records ⟨spec.name, spec.isOpen, fields⟩ ∧
      ∀ field ∈ fields, registry.Knows field.type := by
  obtain ⟨_, distinct, each⟩ := describeFields_eq_ok described
  have known : ∀ field ∈ fields, registry.Knows field.type := by
    intro field member
    obtain ⟨_, _, _, fieldOk⟩ := each field member
    obtain ⟨_, _, _, _, _, _, resolved, _, rfl⟩ := describeField_eq_ok fieldOk
    exact knows_of_resolve resolved
  refine ⟨⟨?_, distinct, ?_, ?_, ?_, ?_, ?_⟩, known⟩
  · intro field member
    obtain ⟨_, _, _, fieldOk⟩ := each field member
    obtain ⟨named, _, _, _, _, _, _, _, rfl⟩ := describeField_eq_ok fieldOk
    exact named
  · exact fun field member key value occurs => known field member _ occurs
  · exact fun field member name occurs => (hasRecord_iff name).1 (known field member _ occurs)
  · exact fun field member name occurs => known field member _ occurs
  · intro field member
    obtain ⟨_, _, _, fieldOk⟩ := each field member
    obtain ⟨_, _, _, _, _, _, _, _, rfl⟩ := describeField_eq_ok fieldOk
    rfl
  · intro field member default declared
    obtain ⟨_, _, _, fieldOk⟩ := each field member
    obtain ⟨_, _, _, type, default?, _, _, defaultOk, rfl⟩ := describeField_eq_ok fieldOk
    change default? = some default at declared
    rw [describeDefault_eq_ok_iff] at defaultOk
    rcases defaultOk with ⟨_, noDefault⟩ | ⟨raw, typed, _, structured, isDefault⟩
    · rw [noDefault] at declared
      contradiction
    · rw [isDefault] at declared
      cases declared
      exact structured

theorem InOrder.declare (order : registry.InOrder alphabet) {spec : RecordSpec}
    {recordType : RecordType (Typed Payload)}
    (declared : registry.declare alphabet spec = .ok (recordType, extended)) :
    extended.InOrder alphabet := by
  obtain ⟨fields, described, newName, rfl, rfl⟩ := declare_eq_ok declared
  obtain ⟨identifier, fresh, notBuiltin⟩ := (checkNewName_eq_ok_iff spec.name).1 newName
  obtain ⟨noRecord, noHook⟩ := (contains_eq_false_iff spec.name).1 fresh
  have extension := registry.extends_of_records_append [⟨spec.name, spec.isOpen, fields⟩]
  generalize isExtended : ({ registry with
    records := registry.records ++ [⟨spec.name, spec.isOpen, fields⟩] } : Registry Payload) =
      extended at extension
  have recordNames : extended.recordNames = registry.recordNames ++ [spec.name] := by
    rw [← isExtended]
    exact List.map_append
  have hooks : extended.hooks = registry.hooks := by rw [← isExtended]
  have distinctRecords : extended.recordNames.Nodup := by
    rw [recordNames, ← List.concat_eq_append, List.nodup_concat]
    exact ⟨noRecord, order.distinctRecords⟩
  refine ⟨distinctRecords, ?_, ?_, ?_, record?_eq_some_iff distinctRecords, ?_⟩
  · rw [hooks]
    exact order.distinctHooks
  · intro name member
    rw [recordNames, List.mem_append, List.mem_singleton] at member
    rw [hooks]
    rcases member with earlier | rfl
    · exact order.disjoint name earlier
    · exact noHook
  · intro name taken
    rw [recordNames, hooks, List.mem_append, List.mem_singleton, or_right_comm] at taken
    rcases taken with earlier | rfl
    · exact order.names name earlier
    · exact ⟨identifier, notBuiltin⟩
  · intro earlier recordType later split
    rw [← isExtended] at split
    -- The added record type comes last; all others were there before.
    rcases List.eq_nil_or_concat later with rfl | ⟨others, last, rfl⟩
    · obtain ⟨rfl, isAdded⟩ := List.append_inj' split rfl
      cases isAdded
      obtain ⟨inOrder, known⟩ := inOrder_of_describeFields described
      exact inOrder.mono order.closed extension known
    · rw [List.concat_eq_append, ← List.cons_append, ← List.append_assoc] at split
      obtain ⟨splitBefore, _⟩ := List.append_inj' split rfl
      exact order.kept extension splitBefore

theorem InOrder.register (order : registry.InOrder alphabet) {name : String} {hook : Hook Payload}
    (registered : registry.register alphabet name hook = .ok extended) :
    extended.InOrder alphabet := by
  obtain ⟨newName, rfl⟩ := register_eq_ok registered
  obtain ⟨identifier, fresh, notBuiltin⟩ := (checkNewName_eq_ok_iff name).1 newName
  obtain ⟨noRecord, noHook⟩ := (contains_eq_false_iff name).1 fresh
  have extension := registry.extends_of_hooks_append [(name, hook)]
  have hookNames : Entries.keys (registry.hooks ++ [(name, hook)]) =
      Entries.keys registry.hooks ++ [name] := Entries.keys_append _ _
  refine ⟨order.distinctRecords, ?_, ?_, ?_, order.found, ?_⟩
  · rw [hookNames, ← List.concat_eq_append, List.nodup_concat]
    exact ⟨noHook, order.distinctHooks⟩
  · intro other member
    rw [hookNames, List.mem_append, List.mem_singleton, not_or]
    refine ⟨order.disjoint other member, ?_⟩
    rintro rfl
    exact noRecord member
  · intro other taken
    rw [hookNames, List.mem_append, List.mem_singleton, ← or_assoc] at taken
    rcases taken with earlier | rfl
    · exact order.names other earlier
    · exact ⟨identifier, notBuiltin⟩
  · exact fun earlier recordType later split => order.kept extension split

/-! ## What follows from order -/

/-- A record type that is referred to was declared before the one that refers to it. -/
theorem InOrder.idxOf_lt (order : registry.InOrder alphabet) {inner outer : String}
    (refers : registry.Refers inner outer) :
    registry.recordNames.idxOf inner < registry.recordNames.idxOf outer := by
  obtain ⟨recordType, found, field, member, occurs⟩ := refers
  obtain ⟨recordMember, rfl⟩ := record?_eq_some found
  obtain ⟨earlier, later, split⟩ := List.append_of_mem recordMember
  have innerEarlier :=
    (order.records earlier recordType later split).recordsEarlier field member inner occurs
  have distinct := order.distinctRecords
  rw [recordNames, split, List.map_append, List.map_cons] at distinct ⊢
  have outerLater : recordType.name ∉ earlier.map RecordType.name := fun repeated =>
    (List.nodup_append.1 distinct).2.2 _ repeated _ List.mem_cons_self rfl
  rw [List.idxOf_append_of_mem innerEarlier, List.idxOf_append_of_notMem outerLater]
  exact Nat.lt_of_lt_of_le (List.idxOf_lt_length_of_mem innerEarlier) (Nat.le_add_right _ _)

/-- No record type refers to itself, be it through others. -/
theorem InOrder.wellFounded_refers (order : registry.InOrder alphabet) :
    WellFounded registry.Refers :=
  Subrelation.wf order.idxOf_lt (measure registry.recordNames.idxOf).wf

/-- Of a type that a registry knows, no name is ever missed. -/
theorem Rejects.fault_ne_unregistered (closed : registry.Closed) {type : TypeExpr} {raw : Value}
    {error : StructureError} (rejects : registry.Rejects type raw error)
    (known : registry.Knows type) (name : String) :
    error.fault ≠ .unregistered name := by
  induction rejects with
  | optional _ inductionHypothesis =>
      exact inductionHypothesis ((knows_optional_iff _).1 known)
  | sequence _ _ inductionHypothesis =>
      exact inductionHypothesis ((knows_sequence_iff _).1 known)
  | set _ _ inductionHypothesis => exact inductionHypothesis ((knows_set_iff _).1 known)
  | mapping _ _ inductionHypothesis =>
      exact inductionHypothesis ((knows_mapping_iff _ _).1 known).2
  | unknownRecord raw unknown =>
      rw [knows_record_iff, hasRecord, unknown] at known
      contradiction
  | field registered member _ _ inductionHypothesis =>
      exact inductionHypothesis (closed _ (record?_eq_some registered).1 _ member)
  | refused _ _ refuses => cases refuses <;> exact StructureFault.noConfusion
  | unknownHook raw unknown =>
      rw [knows_custom_iff, hasHook, unknown] at known
      contradiction
  | _ => exact StructureFault.noConfusion

/-! ## Histories -/

theorem perform_cases (alphabet : Text.Alphabet) (registry : Registry Payload)
    (declaration : Declaration Payload) :
    registry.perform alphabet declaration = registry ∨
      (∃ spec recordType, registry.declare alphabet spec =
        .ok (recordType, registry.perform alphabet declaration)) ∨
      ∃ name hook,
        registry.register alphabet name hook = .ok (registry.perform alphabet declaration) := by
  cases accepted : registry.accept alphabet declaration with
  | error error => exact .inl (by rw [perform, accepted])
  | ok extended =>
      have performed : registry.perform alphabet declaration = extended := by rw [perform, accepted]
      rw [performed]
      cases declaration with
      | record spec =>
          obtain ⟨⟨recordType, _⟩, declared, rfl⟩ := (Outcome.map_eq_ok_iff _ _ _).1 accepted
          exact .inr (.inl ⟨spec, recordType, declared⟩)
      | hook name hook => exact .inr (.inr ⟨name, hook, accepted⟩)

theorem InOrder.perform (order : registry.InOrder alphabet) (declaration : Declaration Payload) :
    (registry.perform alphabet declaration).InOrder alphabet := by
  rcases registry.perform_cases alphabet declaration with
    unchanged | ⟨spec, recordType, declared⟩ | ⟨name, hook, registered⟩
  · rw [unchanged]
    exact order
  · exact order.declare declared
  · exact order.register registered

/-- A declaration only adds at the end. -/
theorem prefix_perform (alphabet : Text.Alphabet) (registry : Registry Payload)
    (declaration : Declaration Payload) :
    registry.records <+: (registry.perform alphabet declaration).records ∧
      registry.hooks <+: (registry.perform alphabet declaration).hooks := by
  rcases registry.perform_cases alphabet declaration with
    unchanged | ⟨spec, recordType, declared⟩ | ⟨name, hook, registered⟩
  · rw [unchanged]
    exact ⟨List.prefix_rfl, List.prefix_rfl⟩
  · obtain ⟨fields, _, _, _, isExtended⟩ := declare_eq_ok declared
    rw [isExtended]
    exact ⟨List.prefix_append _ _, List.prefix_rfl⟩
  · obtain ⟨_, isExtended⟩ := register_eq_ok registered
    rw [isExtended]
    exact ⟨List.prefix_rfl, List.prefix_append _ _⟩

theorem prefix_foldl_perform (alphabet : Text.Alphabet) (registry : Registry Payload)
    (later : List (Declaration Payload)) :
    registry.records <+: (later.foldl (perform alphabet) registry).records ∧
      registry.hooks <+: (later.foldl (perform alphabet) registry).hooks := by
  induction later generalizing registry with
  | nil => exact ⟨List.prefix_rfl, List.prefix_rfl⟩
  | cons declaration rest inductionHypothesis =>
      obtain ⟨records, hooks⟩ := registry.prefix_perform alphabet declaration
      obtain ⟨laterRecords, laterHooks⟩ :=
        inductionHypothesis (registry.perform alphabet declaration)
      exact ⟨records.trans laterRecords, hooks.trans laterHooks⟩

theorem inOrder_run (alphabet : Text.Alphabet) (history : List (Declaration Payload)) :
    (run alphabet history).InOrder alphabet := by
  induction history using List.reverseRecOn with
  | nil => exact inOrder_empty alphabet
  | append_singleton earlier declaration inductionHypothesis =>
      rw [run, List.foldl_append]
      exact inductionHypothesis.perform declaration

/-- Any history of declarations, successful or not, leaves the registry in order, with no circle
of references.  A failing declaration changes nothing, later ones change nothing that is there,
and no value is rejected as a registered record because a name is not registered. -/
theorem declaration_history (alphabet : Text.Alphabet) (history : List (Declaration Payload)) :
    (run alphabet history).InOrder alphabet ∧ WellFounded (run alphabet history).Refers ∧
      (∀ declaration error, (run alphabet history).accept alphabet declaration = .error error →
        run alphabet (history ++ [declaration]) = run alphabet history) ∧
      (∀ later, (run alphabet history).records <+: (run alphabet (history ++ later)).records ∧
        (run alphabet history).hooks <+: (run alphabet (history ++ later)).hooks) ∧
      ∀ name ∈ (run alphabet history).recordNames, ∀ raw error,
        (run alphabet history).structureRecord name raw = .error error →
          ∀ missing, error.fault ≠ .unregistered missing := by
  have order := inOrder_run alphabet history
  refine ⟨order, order.wellFounded_refers, ?_, ?_, ?_⟩
  · intro declaration error failed
    rw [run, List.foldl_append]
    change (run alphabet history).perform alphabet declaration = run alphabet history
    rw [perform, failed]
  · intro later
    rw [run, run, List.foldl_append]
    exact prefix_foldl_perform alphabet _ later
  · intro name known raw error failed missing
    have rejects := rejects_of_error order.distinctFields
      (((run alphabet history).structureAs_record_eq_error_iff name raw error).2 failed)
    exact rejects.fault_ne_unregistered order.closed
      ((knows_record_iff name).2 ((hasRecord_iff name).2 known)) missing

end Registry

/-! ## Kennels, with and without keepers -/

namespace Sample

/-- The pets of a kennel are declared as custom values, and none are kept by default. -/
def kennelSpec : RecordSpec where
  name := "Kennel"
  isOpen := false
  fields := [
    ⟨"owner", .tree .str, none⟩,
    ⟨"pets", .tree (.sequence (.custom "Pet")), some (.array [])⟩]

def kennelType : RecordType (Typed String) where
  name := "Kennel"
  isOpen := false
  fields := [
    ⟨"owner", .str, none, some .nonEmpty⟩,
    ⟨"pets", .sequence (.record "Pet"), some ⟨.array [], .sequence []⟩, none⟩]

/-- Kennels with a keeper, which is of no type that is ever declared. -/
def keptKennelSpec : RecordSpec where
  name := "KeptKennel"
  isOpen := false
  fields := kennelSpec.fields ++ [⟨"keeper", .tree (.record "Keeper"), none⟩]

def kennelHistory : List (Declaration String) :=
  [.hook "Tag" tagHook, .record petSpec, .record kennelSpec]

/-- Of a kennel the record type of its pets is stored, and the structured default in place of a
validator.  A kennel with a keeper is refused and nothing of it is stored. -/
theorem declaration_history_kennels :
    (Registry.run Text.unicode kennelHistory).records = [petType, kennelType] ∧
      (Registry.run Text.unicode kennelHistory).hooks = [("Tag", tagHook)] ∧
      (Registry.run Text.unicode kennelHistory).accept Text.unicode (.record keptKennelSpec) =
        .error (.unknownType "KeptKennel" "keeper" "Keeper") ∧
      Registry.run Text.unicode (kennelHistory ++ [.record keptKennelSpec]) =
        Registry.run Text.unicode kennelHistory ∧
      WellFounded (Registry.run Text.unicode kennelHistory).Refers := by
  have refused : (Registry.run Text.unicode kennelHistory).accept Text.unicode
      (.record keptKennelSpec) = .error (.unknownType "KeptKennel" "keeper" "Keeper") := rfl
  obtain ⟨_, noCircle, unchanged, _, _⟩ :=
    Registry.declaration_history Text.unicode kennelHistory
  exact ⟨rfl, rfl, refused, unchanged _ _ refused, noCircle⟩

end Sample

end Recast
