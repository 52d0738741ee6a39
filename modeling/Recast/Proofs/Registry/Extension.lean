import Recast.Proofs.Registry.Names
import Recast.Proofs.Registry.Reading
import Recast.Proofs.TypeExpr.Induction
import Recast.Proofs.Value.Equality

/-!
# Later declarations change nothing

As a type whose names resolve in a registry, every value is structured in a later registry as in
the earlier one, with the same result or the same error.
-/

namespace Recast

variable {Payload : Type}

theorem Field.supplyAll_congr {path : Path} {left right : Entries (Candidate Payload)}
    {fields : List (Field (Typed Payload))}
    (same : ∀ field ∈ fields, field.supplyFrom path left = field.supplyFrom path right) :
    supplyAll path left fields = supplyAll path right fields := by
  induction fields with
  | nil => rfl
  | cons field rest inductionHypothesis =>
      rw [List.forall_mem_cons] at same
      rw [supplyAll_cons, supplyAll_cons, same.1, inductionHypothesis same.2]

/-! ## Containers -/

namespace Candidate

variable {ι : Type} {left right : ι → Candidate Payload} {type : TypeExpr}

/-- Items are structured alike when each is. -/
theorem structureItems_congr {items : List ι}
    (same : ∀ part ∈ items, ∀ path,
      (left part).structuredAt path type = (right part).structuredAt path type)
    (path : Path) (position : Nat) :
    structureItems type path position (items.map left) =
      structureItems type path position (items.map right) := by
  induction items generalizing position with
  | nil => rfl
  | cons part rest inductionHypothesis =>
      rw [List.forall_mem_cons] at same
      simp only [List.map_cons, structureItems, same.1, inductionHypothesis same.2]

/-- Entries are structured alike when each is. -/
theorem structureEntries_congr {entries : Entries ι}
    (same : ∀ entry ∈ entries, ∀ path,
      (left entry.2).structuredAt path type = (right entry.2).structuredAt path type)
    (path : Path) :
    structureEntries type path (Entries.mapValues left entries) =
      structureEntries type path (Entries.mapValues right entries) := by
  simp only [structureEntries, Entries.mapValues, List.map_map]
  refine congrArg Entries.sequence (List.map_congr_left fun entry member => ?_)
  simp only [Function.comp_apply, same entry member]

end Candidate

namespace Registry

variable [BEq Payload] {registry other : Registry Payload}

theorem structureItems_congr {item : TypeExpr} {items : List Value}
    (same : ∀ raw ∈ items, other.structureAs raw item = registry.structureAs raw item)
    (position : Nat) :
    Candidate.structureItems item .root position (other.itemCandidates items) =
      Candidate.structureItems item .root position (registry.itemCandidates items) := by
  rw [itemCandidates_eq_map, itemCandidates_eq_map]
  exact Candidate.structureItems_congr
    (fun raw member => structureAt_congr (same raw member)) .root position

theorem structureEntries_congr {type : TypeExpr} {entries : Entries Value}
    (same : ∀ entry ∈ entries,
      other.structureAs entry.2 type = registry.structureAs entry.2 type) :
    Candidate.structureEntries type .root (other.entryCandidates entries) =
      Candidate.structureEntries type .root (registry.entryCandidates entries) := by
  rw [entryCandidates_eq_mapValues, entryCandidates_eq_mapValues]
  exact Candidate.structureEntries_congr
    (fun entry member => structureAt_congr (same entry member)) .root

/-- A record is read alike when every input is structured alike as the type of its field. -/
theorem structureInput_congr {recordType : RecordType (Typed Payload)} {entries : Entries Value}
    (same : ∀ field ∈ recordType.fields, ∀ raw, field.input? entries = some raw →
      other.structureAs raw field.type = registry.structureAs raw field.type) :
    recordType.structureInput .root (other.entryCandidates entries) =
      recordType.structureInput .root (registry.entryCandidates entries) := by
  have sameSupplied : Field.supplyAll .root (other.entryCandidates entries) recordType.fields =
      Field.supplyAll .root (registry.entryCandidates entries) recordType.fields := by
    refine Field.supplyAll_congr fun field member => ?_
    rw [supplyFrom_eq, supplyFrom_eq]
    cases input : field.input? entries with
    | none => rfl
    | some raw => simp only [same field member raw input]
  rw [structureInput_eq, structureInput_eq, sameSupplied]

/-! ## Types with resolved names -/

/-- What a value is structured as, or why it is not, is the same in later registries. -/
theorem structureAs_of_extends (closed : registry.Closed) (extension : registry.Extends other)
    {type : TypeExpr} (resolves : registry.Resolves type) (raw : Value) :
    other.structureAs raw type = registry.structureAs raw type := by
  induction type, raw using TypeExpr.inductionWithParts Value.partsInduction with
  | optional inner raw inductionHypothesis =>
      cases present : raw.isNull with
      | true =>
          cases raw <;> first | contradiction | rfl
      | false =>
          rw [structureAs_optional other present, structureAs_optional registry present]
          exact inductionHypothesis (resolves.inside List.mem_cons_self)
  | scalar kind raw => cases kind <;> cases raw <;> rfl
  | any raw => rw [structureAs_any, structureAs_any]
  | sequence item raw inductionHypothesis =>
      have itemResolves : registry.Resolves item := resolves.inside List.mem_cons_self
      cases raw with
      | array items =>
          have same : ∀ part ∈ items,
              other.structureAs part item = registry.structureAs part item :=
            fun part member => inductionHypothesis part member item itemResolves
          rw [structureAs_sequence_array, structureAs_sequence_array,
            structureItems_congr same]
      | _ => rfl
  | set item raw inductionHypothesis =>
      have itemResolves : registry.Resolves item := resolves.inside List.mem_cons_self
      cases raw with
      | array items =>
          have same : ∀ part ∈ items,
              other.structureAs part item = registry.structureAs part item :=
            fun part member => inductionHypothesis part member item itemResolves
          rw [structureAs_set_array, structureAs_set_array, structureItems_congr same]
      | _ => rfl
  | mapping key type raw inductionHypothesis =>
      have typeResolves : registry.Resolves type :=
        resolves.inside (List.mem_cons_of_mem _ List.mem_cons_self)
      cases raw with
      | map entries =>
          by_cases textKeys : key = .str
          · subst textKeys
            rw [structureAs_mapping_map, structureAs_mapping_map,
              structureEntries_congr fun entry member =>
                inductionHypothesis entry.2 (Value.mem_parts_map member) type typeResolves]
          · rw [structureAs_mapping_of_ne other textKeys,
              structureAs_mapping_of_ne registry textKeys]
      | _ => rfl
  | record name raw inductionHypothesis =>
      obtain ⟨recordType, found⟩ := Option.isSome_iff_exists.1 resolves.here
      have fieldsKnown := closed recordType (record?_eq_some found).1
      rw [structureAs_record_eq, structureAs_record_eq, structureRecord, structureRecord, found,
        extension.records name recordType found]
      cases raw with
      | map entries =>
          have sameRecord := structureInput_congr fun field member part input =>
            inductionHypothesis part (Value.mem_parts_of_lookup (lookup_of_input? input))
              field.type (fieldsKnown field member).resolves
          exact congrArg _ sameRecord
      | _ => rfl
  | custom name raw =>
      obtain ⟨hook, found⟩ := Option.isSome_iff_exists.1 resolves.here
      rw [structureAs_custom_eq, structureAs_custom_eq, structureCustom, structureCustom, found,
        extension.hooks name hook found]

end Registry

end Recast
