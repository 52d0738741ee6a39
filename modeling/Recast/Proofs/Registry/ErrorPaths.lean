import Recast.Proofs.Path
import Recast.Proofs.Registry.Persistence
import Recast.Proofs.RoundTrip.Complete

/-!
# Paths of errors in writing

The paths of errors are put together without a check of their components.  Names of declared fields
are identifiers and positions of items are written in decimal, so every such path can be read back
from a message.  Only a mapping brings keys into a path that may be any text.
-/

namespace Recast

variable {Payload : Type}

namespace Path

variable {alphabet : Text.Alphabet}

theorem isWritable_root : root.IsWritable alphabet :=
  fun _ member => absurd member List.not_mem_nil

theorem IsWritable.under {path : Path} {component : String} (writable : path.IsWritable alphabet)
    (allowed : IsComponent alphabet component.toList) :
    (path.under component).IsWritable alphabet :=
  List.forall_mem_cons.2 ⟨allowed, writable⟩

end Path

namespace TypeExpr

def isMapping : TypeExpr → Bool
  | .mapping _ _ => true
  | _ => false

end TypeExpr

namespace Registry

/-- No mapping is reached from the type, directly or through the fields of records. -/
def ReachesNoMapping (registry : Registry Payload) (type : TypeExpr) : Prop :=
  Everywhere registry.typeParts (fun part => part.isMapping = false) type

variable [BEq Payload] {alphabet : Text.Alphabet} {registry : Registry Payload}

/-! ## Paths without keys of mappings -/

theorem Refuses.isWritable {recordType : RecordType (Typed Payload)} {entries : Entries Value}
    {field : Field (Typed Payload)} {error : StructureError}
    (refuses : registry.Refuses recordType entries field error)
    (allowed : Path.IsComponent alphabet field.name.toList) :
    error.path.IsWritable alphabet := by
  cases refuses with
  | null _ _ => exact Path.isWritable_root.under allowed
  | invalid _ _ _ _ => exact Path.isWritable_root.under allowed
  | absent _ _ => exact Path.isWritable_root

/-- Where no mapping is reached, the path of an error consists of field names and positions. -/
theorem Rejects.isWritable (order : registry.InOrder alphabet) {type : TypeExpr} {raw : Value}
    {error : StructureError} (rejects : registry.Rejects type raw error)
    (noMapping : registry.ReachesNoMapping type) :
    error.path.IsWritable alphabet := by
  have fieldName : ∀ {name : String} {recordType : RecordType (Typed Payload)},
      registry.record? name = some recordType → ∀ field ∈ recordType.fields,
        Path.IsComponent alphabet field.name.toList := by
    intro name recordType registered field member
    obtain ⟨_, inOrder⟩ := order.of_mem (record?_eq_some registered).1
    exact Path.isComponent_of_isIdentifier (inOrder.fieldNames field member)
  induction rejects with
  | optional _ inductionHypothesis =>
      exact inductionHypothesis (noMapping.inside List.mem_cons_self)
  | sequence _ _ inductionHypothesis =>
      exact (inductionHypothesis (noMapping.inside List.mem_cons_self)).under
        (Path.isComponent_toString alphabet _)
  | set _ _ inductionHypothesis =>
      exact (inductionHypothesis (noMapping.inside List.mem_cons_self)).under
        (Path.isComponent_toString alphabet _)
  | mapping _ _ _ => exact absurd noMapping.here Bool.true_eq_false.mp
  | field registered member _ _ inductionHypothesis =>
      exact (inductionHypothesis (noMapping.inside (mem_typeParts_record registered member))).under
        (fieldName registered _ member)
  | refused registered member refuses => exact refuses.isWritable (fieldName registered _ member)
  | _ => exact Path.isWritable_root

/-- A text is read as the path of its pieces if each of them is a position in decimal or an
identifier; else the first that is not is reported, with its position.  A path below the top is read
back from its written form exactly if it has only such components.  The names of declared types and
fields are such components, and so the path of every error of a record type from which no mapping is
reached is read back, unless it is the top. -/
theorem paths_are_read_back (built : registry.Built alphabet) :
    (∀ text path, Path.parse text alphabet = .ok path ↔
      (∀ piece ∈ Path.pieces text, Path.IsComponent alphabet piece) ∧
        path.components = (Path.pieces text).map String.ofList) ∧
    (∀ text error, Path.parse text alphabet = .error error ↔
      Outcome.FirstFailure (Path.IsComponent alphabet)
        (fun position piece => ∃ fault, Path.componentFault? alphabet piece = some fault ∧
          error = .invalidComponent (String.ofList piece) position fault)
        (Path.pieces text)) ∧
    (∀ path, path ≠ .root → (Path.parse path.text alphabet = .ok path ↔ path.IsWritable alphabet)) ∧
    (∀ name, registry.contains name = true → Path.IsComponent alphabet name.toList) ∧
    (∀ recordType ∈ registry.records, ∀ field ∈ recordType.fields,
      Path.IsComponent alphabet field.name.toList) ∧
    ∀ name, registry.ReachesNoMapping (.record name) → ∀ raw error,
      registry.structureRecord name raw = .error error → error.path ≠ .root →
        Path.parse error.path.text alphabet = .ok error.path := by
  have order := built.inOrder
  refine ⟨Path.parse_eq_ok_iff alphabet, Path.parse_eq_error_iff alphabet,
    fun path below => Path.parse_text_eq_ok_iff below, ?_, ?_, ?_⟩
  · intro name taken
    rw [contains, Bool.or_eq_true, hasRecord_iff, hasHook_iff] at taken
    exact Path.isComponent_of_isIdentifier (order.names name taken).1
  · intro recordType member field fieldMember
    obtain ⟨_, inOrder⟩ := order.of_mem member
    exact Path.isComponent_of_isIdentifier (inOrder.fieldNames field fieldMember)
  · intro name noMapping raw error failed below
    have rejects := rejects_of_error order.distinctFields
      ((registry.structureAs_record_eq_error_iff name raw error).2 failed)
    exact (Path.parse_text_eq_ok_iff below).2 (rejects.isWritable order noMapping)

end Registry

/-! ## The path of a pet's missing name -/

namespace Sample

theorem reachesNoMapping_pet : registry.ReachesNoMapping (.record "Pet") := by
  have ofParts : ∀ {type : TypeExpr}, type.isMapping = false →
      (∀ part ∈ registry.typeParts type, registry.ReachesNoMapping part) →
      registry.ReachesNoMapping type :=
    fun here inside => (Everywhere.iff_and_forall _).2 ⟨here, inside⟩
  have ofNoParts : ∀ {type : TypeExpr}, type.isMapping = false → registry.typeParts type = [] →
      registry.ReachesNoMapping type := by
    intro type here noParts
    refine ofParts here ?_
    rw [noParts]
    exact List.forall_mem_nil _
  refine ofParts rfl fun part member => ?_
  simp only [Registry.typeParts, show registry.record? "Pet" = some petType from rfl, petType,
    List.map_cons, List.map_nil, List.mem_cons, List.not_mem_nil, or_false] at member
  rcases member with rfl | rfl | rfl
  · exact ofNoParts rfl rfl
  · refine ofParts rfl fun inner innerMember => ?_
    cases List.mem_singleton.1 innerMember
    exact ofNoParts rfl rfl
  · exact ofNoParts rfl rfl

/-- Empty pieces do not count, and what comes after the third other piece is not looked at.  A pet
without a name has an error whose path is read back. -/
theorem paths_are_read_back_pet :
    Path.parse "//pets/0/" = .ok ⟨["pets", "0"]⟩ ∧
      Path.parse "pets//0/a-b/?" = .error (.invalidComponent "a-b" 2
        (.notIdentifier (.badCharacter '-'))) ∧
      ∃ error, registry.structureRecord "Pet" (.map [("name", .string "")]) = .error error ∧
        error.path ≠ .root ∧ Path.parse error.path.text = .ok error.path := by
  obtain ⟨reads, refuses, _, _, _, errorPath⟩ := Registry.paths_are_read_back built_registry
  have writable : ∀ piece ∈ ["pets".toList, "0".toList], Path.IsComponent Text.unicode piece := by
    intro piece member
    rw [← Path.componentFault?_eq_none_iff]
    revert piece
    decide
  have failed : registry.structureRecord "Pet" (.map [("name", .string "")]) =
      .error ((StructureError.atTop (.invalid (.empty "name"))).under "name") := rfl
  refine ⟨(reads _ _).2 ⟨writable, rfl⟩, (refuses _ _).2 ?_, _, failed, nofun,
    errorPath "Pet" reachesNoMapping_pet _ _ failed nofun⟩
  exact ⟨["pets".toList, "0".toList], "a-b".toList, ["?".toList], rfl, writable, _, rfl, rfl⟩

end Sample

end Recast
