import Recast.Proofs.Registry.Names
import Recast.Proofs.Registry.Structures

/-!
# Registries that a host can build

A registry is built from nothing by declarations and registrations, of which only the successful
ones leave a trace.  What a value denotes stays the same in every later registry, so a default
that was structured when its record type was declared is what its declared form denotes ever
after: every built registry is coherent.
-/

namespace Recast

variable {Payload : Type} [BEq Payload]

/-- What the types of the host guarantee of a hook: payloads that it makes are of its own kind, and
the untyped values that it gives have no key twice. -/
structure Hook.WellTyped (hook : Hook Payload) : Prop where
  ownKind : ∀ raw payload, hook.structurePayload raw = .ok payload →
    (hook.unstructurePayload? payload).isSome
  wellFormed : ∀ payload raw, hook.unstructurePayload? payload = some raw → raw.WellFormed

/-- No map in a declared default has a key twice. -/
def RecordSpec.WellFormed (spec : RecordSpec) : Prop :=
  ∀ field ∈ spec.fields, ∀ raw, field.default? = some raw → raw.WellFormed

namespace Registry

/-- The registries that declarations and registrations lead to. -/
inductive Built (alphabet : Text.Alphabet) : Registry Payload → Prop
  | empty : Built alphabet {}
  | declare {registry extended : Registry Payload} {spec : RecordSpec}
      {recordType : RecordType (Typed Payload)} :
      Built alphabet registry →
      spec.WellFormed →
      registry.declare alphabet spec = .ok (recordType, extended) →
      Built alphabet extended
  | register {registry extended : Registry Payload} {name : String} {hook : Hook Payload} :
      Built alphabet registry →
      hook.WellTyped →
      registry.register alphabet name hook = .ok extended →
      Built alphabet extended

/-! ## Later registries -/

/-- What a value denotes stays the same in later registries. -/
theorem Structures.mono {registry extended : Registry Payload}
    (extension : registry.Extends extended) {type : TypeExpr} {raw : Value}
    {value : Typed Payload} (structures : registry.Structures type raw value) :
    extended.Structures type raw value := by
  induction structures with
  | missing inner => exact .missing inner
  | optional present _ inductionHypothesis => exact .optional present inductionHypothesis
  | str text => exact .str text
  | int number => exact .int number
  | float number => exact .float number
  | widened number => exact .widened number
  | bool truth => exact .bool truth
  | any raw => exact .any raw
  | sequence valueOf _ inductionHypothesis => exact .sequence valueOf inductionHypothesis
  | set valueOf _ inductionHypothesis => exact .set valueOf inductionHypothesis
  | mapping valueOf _ inductionHypothesis => exact .mapping valueOf inductionHypothesis
  | record valueOf registered _ passed filled defaults _ givenLater defaultedLater =>
      exact .record valueOf (extension.records _ _ registered) givenLater passed filled defaults
        defaultedLater
  | custom registered structured => exact .custom (extension.hooks _ _ registered) structured

end Registry

theorem RecordType.SoundIn.mono {registry extended : Registry Payload}
    (extension : registry.Extends extended) {recordType : RecordType (Typed Payload)}
    (sound : recordType.SoundIn registry) :
    recordType.SoundIn extended where
  toWellDeclared := sound.toWellDeclared
  defaults field member default declared :=
    ⟨(sound.defaults field member default declared).1,
      (sound.defaults field member default declared).2.mono extension⟩

namespace Registry

variable {alphabet : Text.Alphabet} {registry extended : Registry Payload}

/-! ## What a declaration adds -/

theorem checkName_eq_ok_iff (name : String) (checked : Unit) :
    checkName name alphabet = .ok checked ↔ Text.isIdentifier alphabet name = true := by
  rw [checkName, Text.isIdentifier]
  cases Text.identifierFault? alphabet name.toList <;> simp

omit [BEq Payload] in
theorem Knows.textKeyed {type : TypeExpr} (known : registry.Knows type) : type.TextKeyed := by
  induction type with
  | optional inner inductionHypothesis =>
      have innerKeyed := inductionHypothesis ((knows_optional_iff inner).1 known)
      exact innerKeyed
  | sequence item inductionHypothesis =>
      have itemKeyed := inductionHypothesis ((knows_sequence_iff item).1 known)
      exact itemKeyed
  | set item inductionHypothesis =>
      have itemKeyed := inductionHypothesis ((knows_set_iff item).1 known)
      exact itemKeyed
  | mapping key value _ inductionHypothesis =>
      obtain ⟨textKey, valueKnown⟩ := (knows_mapping_iff key value).1 known
      exact ⟨textKey, inductionHypothesis valueKnown⟩
  | _ => trivial

theorem describeDefault_eq_ok_iff (record field : String) (type : TypeExpr) (raw? : Option Value)
    (default? : Option (FieldDefault (Typed Payload))) :
    registry.describeDefault record field type raw? = .ok default? ↔
      (raw? = none ∧ default? = none) ∨
        ∃ raw typed, raw? = some raw ∧ registry.structureAs raw type = .ok typed ∧
          default? = some ⟨raw, typed⟩ := by
  cases raw? with
  | none => simp [describeDefault, eq_comm]
  | some raw =>
      simp only [describeDefault, structureAt_child]
      cases structured : registry.structureAs raw type with
      | error error => simp [structured, Except.mapError]
      | ok typed =>
          simp only [Except.mapError, reduceCtorEq, false_and, false_or, Option.some.injEq,
            Except.ok.injEq]
          constructor
          · rintro rfl
            exact ⟨raw, typed, rfl, structured, rfl⟩
          · rintro ⟨_, other, rfl, otherOk, rfl⟩
            rw [structured] at otherOk
            cases otherOk
            rfl

omit [BEq Payload] in
theorem checkNewName_eq_ok_iff (name : String) :
    registry.checkNewName alphabet name = .ok () ↔
      Text.isIdentifier alphabet name = true ∧ registry.contains name = false ∧
        TypeExpr.isBuiltinName name = false := by
  simp only [checkNewName, Outcome.bind_eq_ok_iff, Outcome.mapError_eq_ok_iff,
    checkName_eq_ok_iff, exists_const]
  refine and_congr_right fun _ => ?_
  cases registry.contains name <;> cases TypeExpr.isBuiltinName name <;> simp

theorem describeField_eq_ok {record : String} {earlier : List String} {spec : FieldSpec}
    {field : Field (Typed Payload)}
    (described : registry.describeField alphabet record earlier spec = .ok field) :
    Text.isIdentifier alphabet spec.name = true ∧ spec.name ∉ earlier ∧
      ∃ written type default?, spec.type.read alphabet = .ok written ∧
        registry.resolve record spec.name written = .ok type ∧
        registry.describeDefault record spec.name type spec.default? = .ok default? ∧
        field = Field.attachValidator ⟨spec.name, type, default?, none⟩ := by
  rw [describeField, Outcome.bind_eq_ok_iff] at described
  obtain ⟨_, named, afterName⟩ := described
  rw [Outcome.mapError_eq_ok_iff, checkName_eq_ok_iff] at named
  split at afterName
  · contradiction
  · next fresh =>
      simp only [Outcome.bind_eq_ok_iff, Outcome.mapError_eq_ok_iff, Except.ok.injEq] at afterName
      obtain ⟨written, readOk, type, resolved, default?, defaultOk, rfl⟩ := afterName
      exact ⟨named, by simpa using fresh, written, type, default?, readOk, resolved, defaultOk, rfl⟩

/-- Described fields have new and distinct names, and each is the description of one of the
declared fields. -/
theorem describeFields_eq_ok {record : String} {earlier : List String} {specs : List FieldSpec}
    {fields : List (Field (Typed Payload))}
    (described : registry.describeFields alphabet record earlier specs = .ok fields) :
    (∀ field ∈ fields, field.name ∉ earlier) ∧ (fields.map Field.name).Nodup ∧
      ∀ field ∈ fields, ∃ spec ∈ specs, ∃ before,
        registry.describeField alphabet record before spec = .ok field := by
  induction specs generalizing earlier fields with
  | nil =>
      cases described
      simp
  | cons spec rest inductionHypothesis =>
      simp only [describeFields, Outcome.bind_eq_ok_iff, Except.ok.injEq] at described
      obtain ⟨field, fieldOk, others, othersOk, rfl⟩ := described
      obtain ⟨othersNew, othersDistinct, othersDescribed⟩ := inductionHypothesis othersOk
      obtain ⟨_, fresh, _, _, _, _, _, _, isField⟩ := describeField_eq_ok fieldOk
      have sameName : field.name = spec.name := by rw [isField]; rfl
      refine ⟨?_, ?_, ?_⟩
      · intro other member
        rcases List.mem_cons.1 member with rfl | later
        · rw [sameName]
          exact fresh
        · exact fun present => othersNew other later (List.mem_append_left _ present)
      · rw [List.map_cons, List.nodup_cons, sameName]
        refine ⟨?_, othersDistinct⟩
        intro repeated
        obtain ⟨other, otherMember, otherName⟩ := List.mem_map.1 repeated
        exact othersNew other otherMember
          (List.mem_append_right _ (List.mem_singleton.2 otherName))
      · intro other member
        rcases List.mem_cons.1 member with rfl | later
        · exact ⟨spec, List.mem_cons_self, earlier, fieldOk⟩
        · obtain ⟨otherSpec, specMember, otherDescribed⟩ := othersDescribed other later
          exact ⟨otherSpec, List.mem_cons_of_mem _ specMember, otherDescribed⟩

theorem declare_eq_ok {spec : RecordSpec} {recordType : RecordType (Typed Payload)}
    (declared : registry.declare alphabet spec = .ok (recordType, extended)) :
    ∃ fields, registry.describeFields alphabet spec.name [] spec.fields = .ok fields ∧
      registry.checkNewName alphabet spec.name = .ok () ∧
      recordType = ⟨spec.name, spec.isOpen, fields⟩ ∧
      extended = { registry with records := registry.records ++ [recordType] } := by
  simp only [declare, describe, Outcome.bind_eq_ok_iff, Except.ok.injEq, Prod.mk.injEq]
    at declared
  obtain ⟨_, ⟨_, newName, fields, fieldsOk, rfl⟩, rfl, rfl⟩ := declared
  exact ⟨fields, fieldsOk, newName, rfl, rfl⟩

omit [BEq Payload] in
theorem register_eq_ok {name : String} {hook : Hook Payload}
    (registered : registry.register alphabet name hook = .ok extended) :
    registry.checkNewName alphabet name = .ok () ∧
      extended = { registry with hooks := registry.hooks ++ [(name, hook)] } := by
  simp only [register, Outcome.bind_eq_ok_iff, Except.ok.injEq] at registered
  obtain ⟨_, newName, rfl⟩ := registered
  exact ⟨newName, rfl⟩

/-- A record type that a coherent registry describes is sound in it. -/
theorem soundIn_of_describeFields (coherent : registry.Coherent) {spec : RecordSpec}
    (wellFormed : spec.WellFormed) {fields : List (Field (Typed Payload))}
    (described : registry.describeFields alphabet spec.name [] spec.fields = .ok fields) :
    RecordType.SoundIn registry ⟨spec.name, spec.isOpen, fields⟩ := by
  obtain ⟨_, distinct, each⟩ := describeFields_eq_ok described
  refine ⟨⟨distinct, ?_, ?_⟩, ?_⟩
  · intro field member
    obtain ⟨_, _, _, fieldOk⟩ := each field member
    obtain ⟨_, _, _, _, _, _, resolved, _, rfl⟩ := describeField_eq_ok fieldOk
    exact (knows_of_resolve resolved).textKeyed
  · intro field member
    obtain ⟨_, _, _, fieldOk⟩ := each field member
    obtain ⟨_, _, _, _, _, _, _, _, rfl⟩ := describeField_eq_ok fieldOk
    rfl
  · intro field member default declared
    obtain ⟨fieldSpec, specMember, _, fieldOk⟩ := each field member
    obtain ⟨_, _, _, type, default?, _, _, defaultOk, rfl⟩ := describeField_eq_ok fieldOk
    change default? = some default at declared
    rw [describeDefault_eq_ok_iff] at defaultOk
    rcases defaultOk with ⟨_, noDefault⟩ | ⟨raw, typed, written, structured, isDefault⟩
    · rw [noDefault] at declared
      contradiction
    · rw [isDefault] at declared
      cases declared
      exact ⟨wellFormed fieldSpec specMember raw written, structures_of_ok coherent structured⟩

/-! ## Built registries -/

theorem Built.coherent (built : registry.Built alphabet) : registry.Coherent := by
  induction built with
  | empty => exact fun recordType member => absurd member List.not_mem_nil
  | @declare registry extended spec recordType _ wellFormed declared inductionHypothesis =>
      obtain ⟨fields, described, _, rfl, rfl⟩ := declare_eq_ok declared
      have extension := registry.extends_of_records_append [⟨spec.name, spec.isOpen, fields⟩]
      intro recordType member
      rcases List.mem_append.1 member with earlier | new
      · exact (inductionHypothesis recordType earlier).mono extension
      · rw [List.mem_singleton.1 new]
        exact (soundIn_of_describeFields inductionHypothesis wellFormed described).mono extension
  | @register registry extended name hook _ _ registered inductionHypothesis =>
      obtain ⟨_, rfl⟩ := register_eq_ok registered
      have extension := registry.extends_of_hooks_append [(name, hook)]
      exact fun recordType member => (inductionHypothesis recordType member).mono extension

theorem Built.wellTyped (built : registry.Built alphabet) {name : String} {hook : Hook Payload}
    (found : registry.hook? name = some hook) :
    hook.WellTyped := by
  have member := Entries.mem_of_lookup found
  clear found
  induction built with
  | empty => contradiction
  | declare _ _ declared inductionHypothesis =>
      obtain ⟨_, _, _, _, rfl⟩ := declare_eq_ok declared
      exact inductionHypothesis member
  | register _ wellTyped registered inductionHypothesis =>
      obtain ⟨_, rfl⟩ := register_eq_ok registered
      rcases List.mem_append.1 member with earlier | new
      · exact inductionHypothesis earlier
      · cases List.mem_singleton.1 new
        exact wellTyped

end Registry

/-! ## A registry with an open record type and a hook -/

namespace Sample

/-- Tags are texts, kept as they are. -/
def tagHook : Hook String where
  structurePayload
    | .string text => .ok text
    | _ => .error "a tag is a text"
  payloadType := "tag"
  unstructurePayload? text := some (.string text)

def petSpec : RecordSpec where
  name := "Pet"
  isOpen := true
  fields := [
    ⟨"name", .tree .str, none⟩,
    ⟨"age", .tree (.optional (.scalar .int)), some (.integer 1)⟩,
    ⟨"tag", .tree (.custom "Tag"), none⟩]

def petType : RecordType (Typed String) where
  name := "Pet"
  isOpen := true
  fields := [
    ⟨"name", .str, none, some .nonEmpty⟩,
    ⟨"age", .optional (.scalar .int), some ⟨.integer 1, .int 1⟩, none⟩,
    ⟨"tag", .custom "Tag", none, some .present⟩]

def registry : Registry String where
  records := [petType]
  hooks := [("Tag", tagHook)]

theorem wellTyped_tagHook : tagHook.WellTyped where
  ownKind _ _ _ := rfl
  wellFormed _ _ written := by
    cases written
    trivial

theorem built_registry : registry.Built Text.unicode := by
  have petsWellFormed : petSpec.WellFormed := by
    simp [RecordSpec.WellFormed, petSpec, Value.WellFormed]
  have registered : Registry.register Text.unicode {} "Tag" tagHook =
      .ok ⟨[], [("Tag", tagHook)]⟩ := rfl
  have withHook := Registry.Built.register .empty wellTyped_tagHook registered
  have declared : Registry.declare Text.unicode ⟨[], [("Tag", tagHook)]⟩ petSpec =
      .ok (petType, registry) := rfl
  exact .declare withHook petsWellFormed declared

theorem eq_tagHook_of_hook? {name : String} {hook : Hook String}
    (found : registry.hook? name = some hook) :
    hook = tagHook := by
  cases List.mem_singleton.1 (Entries.mem_of_lookup found)
  rfl

end Sample

end Recast
