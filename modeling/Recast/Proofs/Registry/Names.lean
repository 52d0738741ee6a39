import Recast.Proofs.Occurrence
import Recast.Proofs.Outcome
import Recast.Registry.Declaration

/-!
# Names in types

The names in a type resolve in a registry that has every record type and every hook that the type
names.  The registry knows the type when moreover all mappings in it have text keys.  Types that a
declaration accepts are known, and stay known in later registries.
-/

namespace Recast

variable {Payload : Type}

namespace TypeExpr

/-- The types that a type is directly made of. -/
def parts : TypeExpr → List TypeExpr
  | .optional inner => [inner]
  | .sequence item => [item]
  | .set item => [item]
  | .mapping key value => [key, value]
  | _ => []

end TypeExpr

namespace Registry

/-- The name that a type is, if it is one, is registered. -/
def ResolvesHere (registry : Registry Payload) : TypeExpr → Prop
  | .record name => registry.hasRecord name = true
  | .custom name => registry.hasHook name = true
  | _ => True

/-- All names in the type are registered. -/
def Resolves (registry : Registry Payload) (type : TypeExpr) : Prop :=
  Everywhere TypeExpr.parts registry.ResolvesHere type

/-- What a registry has to know of a type apart from the parts of the type. -/
def KnowsHere (registry : Registry Payload) : TypeExpr → Prop
  | .mapping key _ => key = .str
  | .record name => registry.hasRecord name = true
  | .custom name => registry.hasHook name = true
  | _ => True

/-- All names in the type are registered, and all mappings in it have text keys. -/
def Knows (registry : Registry Payload) (type : TypeExpr) : Prop :=
  Everywhere TypeExpr.parts registry.KnowsHere type

/-- The registry knows the types of all declared fields. -/
def Closed (registry : Registry Payload) : Prop :=
  ∀ recordType ∈ registry.records, ∀ field ∈ recordType.fields, registry.Knows field.type

variable {registry extended : Registry Payload}

theorem Knows.resolves {type : TypeExpr} (known : registry.Knows type) :
    registry.Resolves type := by
  refine known.mono fun part knownHere => ?_
  cases part with
  | record name => exact knownHere
  | custom name => exact knownHere
  | _ => trivial

/-! ## Forms of types -/

@[simp]
theorem knows_scalar (kind : Scalar) : registry.Knows (.scalar kind) :=
  (Everywhere.iff_and_forall _).2 ⟨trivial, by simp [TypeExpr.parts]⟩

@[simp]
theorem knows_any : registry.Knows .any :=
  (Everywhere.iff_and_forall _).2 ⟨trivial, by simp [TypeExpr.parts]⟩

@[simp]
theorem knows_optional_iff (inner : TypeExpr) :
    registry.Knows (.optional inner) ↔ registry.Knows inner := by
  rw [Knows, Everywhere.iff_and_forall]
  simp [KnowsHere, TypeExpr.parts, Knows]

@[simp]
theorem knows_sequence_iff (item : TypeExpr) :
    registry.Knows (.sequence item) ↔ registry.Knows item := by
  rw [Knows, Everywhere.iff_and_forall]
  simp [KnowsHere, TypeExpr.parts, Knows]

@[simp]
theorem knows_set_iff (item : TypeExpr) : registry.Knows (.set item) ↔ registry.Knows item := by
  rw [Knows, Everywhere.iff_and_forall]
  simp [KnowsHere, TypeExpr.parts, Knows]

@[simp]
theorem knows_mapping_iff (key value : TypeExpr) :
    registry.Knows (.mapping key value) ↔ key = .str ∧ registry.Knows value := by
  rw [Knows, Everywhere.iff_and_forall, TypeExpr.parts, List.forall_mem_cons,
    List.forall_mem_singleton]
  refine and_congr_right fun textKey => and_iff_right ?_
  rw [textKey]
  exact knows_scalar .str

@[simp]
theorem knows_record_iff (name : String) :
    registry.Knows (.record name) ↔ registry.hasRecord name = true := by
  rw [Knows, Everywhere.iff_and_forall]
  simp [KnowsHere, TypeExpr.parts]

@[simp]
theorem knows_custom_iff (name : String) :
    registry.Knows (.custom name) ↔ registry.hasHook name = true := by
  rw [Knows, Everywhere.iff_and_forall]
  simp [KnowsHere, TypeExpr.parts]

/-! ## Later registries -/

/-- Every name of the first registry means the same in the second. -/
structure Extends (registry extended : Registry Payload) : Prop where
  records : ∀ name recordType, registry.record? name = some recordType →
    extended.record? name = some recordType
  hooks : ∀ name hook, registry.hook? name = some hook → extended.hook? name = some hook

/-- What is added at the end does not hide what was there. -/
theorem extends_of_prefix (records : registry.records <+: extended.records)
    (hooks : registry.hooks <+: extended.hooks) :
    registry.Extends extended where
  records name recordType found := by
    obtain ⟨added, grown⟩ := records
    rw [record?] at found ⊢
    rw [← grown, List.find?_append, found, Option.some_or]
  hooks name hook found := by
    obtain ⟨added, grown⟩ := hooks
    rw [hook?] at found ⊢
    rw [← grown, List.lookup_append, found, Option.some_or]

theorem extends_of_records_append (registry : Registry Payload)
    (added : List (RecordType (Typed Payload))) :
    registry.Extends { registry with records := registry.records ++ added } :=
  extends_of_prefix (List.prefix_append _ _) List.prefix_rfl

theorem extends_of_hooks_append (registry : Registry Payload)
    (added : List (String × Hook Payload)) :
    registry.Extends { registry with hooks := registry.hooks ++ added } :=
  extends_of_prefix List.prefix_rfl (List.prefix_append _ _)

theorem Extends.hasHook (extension : registry.Extends extended) {name : String}
    (known : registry.hasHook name = true) :
    extended.hasHook name = true := by
  obtain ⟨hook, found⟩ := Option.isSome_iff_exists.1 known
  exact Option.isSome_iff_exists.2 ⟨hook, extension.hooks name hook found⟩

/-! ## Declared types -/

theorem knows_of_resolveName {record field name : String} {type : TypeExpr}
    (resolved : registry.resolveName record field name = .ok type) :
    registry.Knows type := by
  rw [resolveName] at resolved
  split at resolved
  · contradiction
  · split at resolved
    · next known =>
        cases resolved
        exact (knows_record_iff name).2 known
    · split at resolved
      · next known =>
          cases resolved
          exact (knows_custom_iff name).2 known
      · contradiction

/-- A registry knows the types that it accepts for fields. -/
theorem knows_of_resolve {record field : String} {written type : TypeExpr}
    (resolved : registry.resolve record field written = .ok type) :
    registry.Knows type := by
  induction written generalizing type with
  | scalar kind =>
      cases resolved
      exact knows_scalar kind
  | any =>
      cases resolved
      exact knows_any
  | optional inner inductionHypothesis =>
      rw [resolve, Outcome.map_eq_ok_iff] at resolved
      obtain ⟨_, innerResolved, rfl⟩ := resolved
      exact (knows_optional_iff _).2 (inductionHypothesis innerResolved)
  | sequence item inductionHypothesis =>
      rw [resolve, Outcome.map_eq_ok_iff] at resolved
      obtain ⟨_, itemResolved, rfl⟩ := resolved
      exact (knows_sequence_iff _).2 (inductionHypothesis itemResolved)
  | set item inductionHypothesis =>
      rw [resolve, Outcome.map_eq_ok_iff] at resolved
      obtain ⟨_, itemResolved, rfl⟩ := resolved
      exact (knows_set_iff _).2 (inductionHypothesis itemResolved)
  | mapping key value _ inductionHypothesis =>
      rw [resolve] at resolved
      split at resolved
      · rw [Outcome.map_eq_ok_iff] at resolved
        obtain ⟨_, valueResolved, rfl⟩ := resolved
        exact (knows_mapping_iff _ _).2 ⟨rfl, inductionHypothesis valueResolved⟩
      · contradiction
  | record name => exact knows_of_resolveName resolved
  | custom name => exact knows_of_resolveName resolved

end Registry

end Recast
