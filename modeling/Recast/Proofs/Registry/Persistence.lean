import Recast.Proofs.Record.Reached
import Recast.Proofs.Registry.History
import Recast.Registry.Unstructuring

/-!
# What later declarations leave as it was

A registry that a host goes on adding to, with or without success, treats the types whose names it
knew before as it did before.  Structuring consults it at every record below the type; it knows
the types there because declared fields name only what was registered earlier.  Unstructuring
consults it for hooks alone, and a value that was structured through the registry names only hooks
that the registry has, in the defaults that filled its gaps too.
-/

namespace Recast

variable {Payload : Type} [BEq Payload]

namespace Registry

variable {alphabet : Text.Alphabet} {registry extended : Registry Payload}

/-! ## Hooks that values name -/

/-- A custom value holds what the hook that it names has made. -/
def MadeHere (registry : Registry Payload) : Typed Payload → Prop
  | .custom typeName payload =>
      ∃ hook raw, registry.hook? typeName = some hook ∧ hook.structurePayload raw = .ok payload
  | _ => True

/-- Every custom value in a value that was structured was made by a hook of the registry, in the
defaults that filled gaps too. -/
theorem Structures.made {type : TypeExpr} {raw : Value} {value : Typed Payload}
    (structures : registry.Structures type raw value) :
    Everywhere Typed.parts registry.MadeHere value := by
  induction structures with
  | optional _ _ inductionHypothesis => exact inductionHypothesis
  | sequence valueOf _ inductionHypothesis =>
      exact (Typed.everywhere_sequence_iff _).2
        ⟨trivial, List.forall_mem_map.2 inductionHypothesis⟩
  | set valueOf _ inductionHypothesis =>
      exact (Typed.everywhere_set_iff _).2
        ⟨trivial, Typed.forall_mem_keepDistinct (List.forall_mem_map.2 inductionHypothesis)⟩
  | mapping valueOf _ inductionHypothesis =>
      exact (Typed.everywhere_mapping_iff _).2
        ⟨trivial, List.forall_mem_map.2 inductionHypothesis⟩
  | @record name recordType entries valueOf _ _ _ filled _ _ givenMade defaultedMade =>
      refine (Typed.everywhere_record_iff _).2 ⟨trivial, fun entry entryMember => ?_⟩
      obtain ⟨field, member, rfl⟩ := RecordType.mem_table.1 entryMember
      cases input : field.input? entries with
      | some raw => exact givenMade field member raw input
      | none =>
          rcases (field.fallback?_eq_some_iff _).1 (filled field member input) with
            ⟨default, declared, _⟩ | ⟨_, _, isMissing⟩
          · exact defaultedMade field member input default declared
          · show Everywhere Typed.parts registry.MadeHere (valueOf field)
            rw [isMissing]
            exact (Typed.everywhere_of_parts_eq_nil rfl).2 trivial
  | @custom name hook raw payload registered structured =>
      exact (Typed.everywhere_of_parts_eq_nil rfl).2 ⟨hook, raw, registered, structured⟩
  | _ => exact (Typed.everywhere_of_parts_eq_nil rfl).2 trivial

/-- The hook that a custom value names is registered. -/
def HasHookHere (registry : Registry Payload) : Typed Payload → Prop
  | .custom typeName _ => registry.hasHook typeName = true
  | _ => True

/-- All hooks that the value names at any depth are registered. -/
def HasHooks (registry : Registry Payload) (value : Typed Payload) : Prop :=
  Everywhere Typed.parts registry.HasHookHere value

/-- A value names only hooks of the registry that it was structured through. -/
theorem Structures.hasHooks {type : TypeExpr} {raw : Value} {value : Typed Payload}
    (structures : registry.Structures type raw value) :
    registry.HasHooks value := by
  refine structures.made.mono fun part made => ?_
  cases part with
  | custom typeName payload =>
      obtain ⟨hook, _, registered, _⟩ := made
      exact Option.isSome_iff_exists.2 ⟨hook, registered⟩
  | _ => trivial

/-! ## Unstructuring in later registries -/

theorem unstructureItems_congr {defaults : DefaultFields} {items : List (Typed Payload)}
    (same : ∀ item ∈ items,
      extended.unstructure defaults item = registry.unstructure defaults item) :
    extended.unstructureItems defaults items = registry.unstructureItems defaults items := by
  induction items with
  | nil => rfl
  | cons item rest inductionHypothesis =>
      rw [List.forall_mem_cons] at same
      simp only [unstructureItems, same.1, inductionHypothesis same.2]

theorem unstructureEntries_congr {defaults : DefaultFields} {entries : Entries (Typed Payload)}
    (same : ∀ entry ∈ entries,
      extended.unstructure defaults entry.2 = registry.unstructure defaults entry.2) :
    extended.unstructureEntries defaults entries =
      registry.unstructureEntries defaults entries := by
  rw [unstructureEntries_eq_mapValues, unstructureEntries_eq_mapValues]
  exact List.map_congr_left fun entry member => congrArg (Prod.mk entry.1) (same entry member)

/-- The untyped form of a value, or why it has none, is the same in later registries. -/
theorem unstructure_of_extends (extension : registry.Extends extended) (defaults : DefaultFields)
    {value : Typed Payload} (hasHooks : registry.HasHooks value) :
    extended.unstructure defaults value = registry.unstructure defaults value := by
  induction value using Typed.partsInduction with
  | step value inductionHypothesis =>
      cases value with
      | sequence items =>
          obtain ⟨_, each⟩ := (Typed.everywhere_sequence_iff items).1 hasHooks
          have same : ∀ item ∈ items,
              extended.unstructure defaults item = registry.unstructure defaults item :=
            fun item member => inductionHypothesis item member (each item member)
          simp only [unstructure, unstructureItems_congr same]
      | set items =>
          obtain ⟨_, each⟩ := (Typed.everywhere_set_iff items).1 hasHooks
          have same : ∀ item ∈ items,
              extended.unstructure defaults item = registry.unstructure defaults item :=
            fun item member => inductionHypothesis item member (each item member)
          simp only [unstructure, unstructureItems_congr same]
      | mapping entries =>
          obtain ⟨_, each⟩ := (Typed.everywhere_mapping_iff entries).1 hasHooks
          simp only [unstructure, unstructureEntries_congr fun entry member =>
            inductionHypothesis entry.2 (Typed.mem_parts_mapping member) (each entry member)]
      | record record =>
          obtain ⟨_, each⟩ := (Typed.everywhere_record_iff record).1 hasHooks
          simp only [unstructure, unstructureEntries_congr fun entry member =>
            inductionHypothesis entry.2 (Typed.mem_parts_record member) (each entry member)]
      | custom typeName payload =>
          obtain ⟨hook, found⟩ := Option.isSome_iff_exists.1 hasHooks.here
          simp only [unstructure, unstructureCustom, found, extension.hooks typeName hook found]
      | _ => rfl

/-! ## Declarations -/

theorem Built.inOrder (built : registry.Built alphabet) : registry.InOrder alphabet := by
  induction built with
  | empty => exact inOrder_empty alphabet
  | declare _ _ declared inductionHypothesis => exact inductionHypothesis.declare declared
  | register _ _ registered inductionHypothesis => exact inductionHypothesis.register registered

/-- Every name keeps its meaning, whatever is declared later. -/
theorem extends_foldl_perform (alphabet : Text.Alphabet) (registry : Registry Payload)
    (later : List (Declaration Payload)) :
    registry.Extends (later.foldl (perform alphabet) registry) := by
  obtain ⟨records, hooks⟩ := registry.prefix_foldl_perform alphabet later
  exact extends_of_prefix records hooks

/-- As a type whose names resolve in a registry, every value is structured the same way after any
number of further declarations, successful or not: with the same result or the same error.  What
it is structured as then has the same untyped form as before, with defaults written or
stripped. -/
theorem later_declarations_change_nothing (built : registry.Built alphabet)
    (later : List (Declaration Payload)) {type : TypeExpr} (resolves : registry.Resolves type)
    (raw : Value) :
    (later.foldl (perform alphabet) registry).structureAs raw type = registry.structureAs raw type ∧
      ∀ value, registry.structureAs raw type = .ok value → ∀ defaults,
        (later.foldl (perform alphabet) registry).unstructure defaults value =
          registry.unstructure defaults value := by
  have extension := registry.extends_foldl_perform alphabet later
  refine ⟨structureAs_of_extends built.inOrder.closed extension resolves raw, ?_⟩
  intro value structured defaults
  have structures := structures_of_ok built.coherent structured
  exact unstructure_of_extends extension defaults structures.hasHooks

end Registry

/-! ## Pets in a registry that grows -/

namespace Sample

/-- A second record type for pets, which is refused, and another hook. -/
def laterDeclarations : List (Declaration String) :=
  [.record petSpec, .hook "Chip" tagHook]

/-- A pet is read and written as before, in a registry that has one more hook. -/
theorem later_declarations_pet :
    registry.accept Text.unicode (.record petSpec) = .error (.duplicateType "Pet") ∧
      (laterDeclarations.foldl (Registry.perform Text.unicode) registry).hasHook "Chip" = true ∧
      registry.structureAs petInput (.record "Pet") = .ok (.record pet) ∧
      (laterDeclarations.foldl (Registry.perform Text.unicode) registry).structureAs petInput
          (.record "Pet") =
        registry.structureAs petInput (.record "Pet") ∧
      (laterDeclarations.foldl (Registry.perform Text.unicode) registry).unstructure .stripped
          (.record pet) =
        registry.unstructure .stripped (.record pet) := by
  have resolves : registry.Resolves (.record "Pet") :=
    ((Registry.knows_record_iff "Pet").2 rfl).resolves
  have structured : registry.structureAs petInput (.record "Pet") = .ok (.record pet) :=
    (registry.structureAs_record_iff "Pet" petInput pet).2 structureRecord_petInput
  obtain ⟨sameRead, sameWritten⟩ := Registry.later_declarations_change_nothing built_registry
    laterDeclarations resolves petInput
  exact ⟨rfl, rfl, structured, sameRead, sameWritten _ structured .stripped⟩

end Sample

end Recast
