import Recast.Proofs.Outcome
import Recast.Proofs.TypeExpr.Induction
import Recast.Proofs.Value.Equality
import Recast.Registry.Structuring

/-!
# Structuring in another place

While a value is structured, its path is handed down to its parts.  Nothing but the paths of errors
depends on it: a computation relocates if in another place it gives the same value, or the same
error with the path of the place in front.  Each step of structuring relocates, and so does the
whole.  Hence the parts of a container fail as they do on their own, only further down.
-/

namespace Recast

/-! ## Paths that continue others -/

namespace Path

/-- The same path, seen from a tree that holds the first one at the given component. -/
def under (path : Path) (component : String) : Path :=
  ⟨component :: path.components⟩

/-- The path that leads along the first path and then along the second. -/
def append (outer inner : Path) : Path :=
  ⟨outer.components ++ inner.components⟩

instance : Append Path :=
  ⟨append⟩

theorem append_root (outer : Path) : outer ++ root = outer :=
  congrArg mk (List.append_nil outer.components)

theorem append_child (outer inner : Path) (component : String) :
    (outer ++ inner).child component = outer ++ inner.child component :=
  congrArg mk (List.append_assoc outer.components inner.components [component])

end Path

namespace StructureError

/-- The error, seen from a tree that holds the faulty tree at the place. -/
def below (place : Path) (error : StructureError) : StructureError :=
  { error with path := place ++ error.path }

/-- The error, seen from a container that holds the faulty value under the component. -/
def under (component : String) (error : StructureError) : StructureError :=
  { error with path := error.path.under component }

theorem below_child (component : String) (error : StructureError) :
    error.below (Path.root.child component) = error.under component :=
  rfl

end StructureError

/-! ## Computations that relocate -/

/-- In another place the computation gives the same value, or the same error with the path of the
place in front. -/
def Relocates {α : Type} (compute : Path → Except StructureError α) : Prop :=
  ∀ outer inner, compute (outer ++ inner) = (compute inner).mapError (.below outer)

namespace Relocates

variable {α β : Type} {compute : Path → Except StructureError α}

theorem ok (value : α) : Relocates fun _ => .ok value :=
  fun _ _ => rfl

/-- A fault of the value in the place itself. -/
theorem error (fault : StructureFault) : Relocates fun path => .error (α := α) ⟨path, fault⟩ :=
  fun _ _ => rfl

theorem child (relocates : Relocates compute) (component : String) :
    Relocates fun path => compute (path.child component) := by
  intro outer inner
  dsimp only
  rw [Path.append_child, relocates]

theorem bind {next : α → Path → Except StructureError β} (first : Relocates compute)
    (later : ∀ value, Relocates (next value)) :
    Relocates fun path => compute path >>= fun value => next value path := by
  intro outer inner
  dsimp only
  rw [first outer inner]
  cases compute inner with
  | error error => rfl
  | ok value => exact later value outer inner

/-- In a place other than the top it is as at the top. -/
theorem eq_mapError (relocates : Relocates compute) (place : Path) :
    compute place = (compute .root).mapError (.below place) := by
  rw [← relocates place .root, Path.append_root]

/-- Entries are computed until one fails, in every place the same one. -/
theorem sequence {ι : Type} {keyOf : ι → String} {computeOf : ι → Path → Except StructureError α}
    {items : List ι} (each : ∀ part ∈ items, Relocates (computeOf part)) :
    Relocates fun path => Entries.sequence (items.map fun part =>
      (keyOf part, computeOf part path)) := by
  induction items with
  | nil => exact ok []
  | cons part rest inductionHypothesis =>
      rw [List.forall_mem_cons] at each
      exact each.1.bind fun value => (inductionHypothesis each.2).bind fun others => ok _

end Relocates

variable {Payload : Type} [BEq Payload]

/-! ## Records from supplied values -/

theorem Field.relocates_checkSupplied (field : Field (Typed Payload)) (typeCheck : TypeCheck)
    (value : Typed Payload) :
    Relocates fun path => field.checkSupplied path typeCheck value := by
  unfold checkSupplied
  cases field.validate value with
  | error failure => exact (Relocates.error _).child field.name
  | ok _ =>
      by_cases refused : typeCheck = .checked ∧ field.type.admits value = false
      · simp only [if_pos refused]
        exact (Relocates.error _).child field.name
      · simp only [if_neg refused]
        exact .ok ()

namespace RecordType

variable (recordType : RecordType (Typed Payload)) (typeCheck : TypeCheck)
  (supplied : Entries (Typed Payload))

theorem relocates_fieldValue (field : Field (Typed Payload)) :
    Relocates fun path => recordType.fieldValue path typeCheck supplied field := by
  unfold fieldValue
  cases supplied.lookup field.name with
  | some value =>
      exact (field.relocates_checkSupplied typeCheck value).bind fun _ => .ok value
  | none =>
      cases field.fallback? with
      | some value => exact .ok value
      | none => exact .error _

theorem relocates_assemble :
    Relocates fun path => recordType.assemble path typeCheck supplied := by
  unfold assemble
  refine Relocates.bind (Relocates.sequence fun field _ =>
    recordType.relocates_fieldValue typeCheck supplied field) fun values => ?_
  cases supplied.find? fun entry => !recordType.declares entry.1 with
  | some entry => exact .error _
  | none => exact .ok values

end RecordType

/-! ## Candidates -/

namespace Candidate

/-- Whatever the candidate is structured as, it relocates. -/
def StructuresAnywhere (candidate : Candidate Payload) : Prop :=
  ∀ type, Relocates fun path => candidate.structuredAt path type

omit [BEq Payload] in
theorem relocates_structureItems {candidates : List (Candidate Payload)}
    (each : ∀ candidate ∈ candidates, candidate.StructuresAnywhere) (item : TypeExpr)
    (position : Nat) :
    Relocates fun path => structureItems item path position candidates := by
  induction candidates generalizing position with
  | nil => exact .ok []
  | cons candidate rest inductionHypothesis =>
      rw [List.forall_mem_cons] at each
      exact ((each.1 item).child (toString position)).bind fun first =>
        (inductionHypothesis each.2 (position + 1)).bind fun others => .ok (first :: others)

omit [BEq Payload] in
theorem relocates_structureEntries {candidates : Entries (Candidate Payload)}
    (each : ∀ entry ∈ candidates, entry.2.StructuresAnywhere) (type : TypeExpr) :
    Relocates fun path => structureEntries type path candidates :=
  .sequence fun entry member => (each entry member type).child entry.1

end Candidate

omit [BEq Payload] in
theorem Field.relocates_supply (field : Field (Typed Payload)) {candidate : Candidate Payload}
    (anywhere : candidate.StructuresAnywhere) :
    Relocates fun path => field.supply path candidate := by
  unfold supply
  split
  · exact .ok none
  · split
    · exact .ok (some Typed.missing)
    · exact ((anywhere field.type).child field.name).bind fun value => .ok (some value)

omit [BEq Payload] in
theorem Field.relocates_supplyAll {candidates : Entries (Candidate Payload)}
    (each : ∀ entry ∈ candidates, entry.2.StructuresAnywhere)
    (fields : List (Field (Typed Payload))) :
    Relocates fun path => supplyAll path candidates fields := by
  induction fields with
  | nil => exact .ok []
  | cons field rest inductionHypothesis =>
      simp only [supplyAll]
      cases found : candidates.lookup field.name with
      | none => exact inductionHypothesis
      | some candidate =>
          have anywhere := each _ (Entries.mem_of_lookup found)
          refine (field.relocates_supply anywhere).bind fun supplied =>
            inductionHypothesis.bind fun others => ?_
          cases supplied with
          | none => exact .ok others
          | some value => exact .ok ((field.name, value) :: others)

theorem RecordType.relocates_structureInput (recordType : RecordType (Typed Payload))
    {candidates : Entries (Candidate Payload)}
    (each : ∀ entry ∈ candidates, entry.2.StructuresAnywhere) :
    Relocates fun path => recordType.structureInput path candidates :=
  (Field.relocates_supplyAll each recordType.fields).bind fun supplied =>
    (recordType.relocates_assemble .trusted supplied).bind fun _ => .ok _

/-! ## Values -/

namespace Registry

variable (registry : Registry Payload)

omit [BEq Payload] in
theorem relocates_structureCustom (name : String) (raw : Value) :
    Relocates fun path => registry.structureCustom name path raw := by
  unfold structureCustom
  cases registry.hook? name with
  | none => exact .error _
  | some hook =>
      dsimp only
      cases hook.structurePayload raw with
      | ok payload => exact .ok _
      | error reason => exact .error _

theorem structuresAnywhere_of_mem_itemCandidates {items : List Value}
    (each : ∀ raw ∈ items, ∀ type, Relocates fun path => registry.structureAt raw path type) :
    ∀ candidate ∈ registry.itemCandidates items, candidate.StructuresAnywhere := by
  rw [itemCandidates_eq_map, List.forall_mem_map]
  exact each

theorem structuresAnywhere_of_mem_entryCandidates {entries : Entries Value}
    (each : ∀ entry ∈ entries, ∀ type,
      Relocates fun path => registry.structureAt entry.2 path type) :
    ∀ entry ∈ registry.entryCandidates entries, entry.2.StructuresAnywhere := by
  rw [entryCandidates_eq_mapValues, Entries.mapValues, List.forall_mem_map]
  exact each

/-- In another place a value is structured as the same value, or fails with the same error and the
path of the place in front. -/
theorem relocates_structureAt (raw : Value) (type : TypeExpr) :
    Relocates fun path => registry.structureAt raw path type := by
  induction type, raw using TypeExpr.inductionWithParts Value.partsInduction with
  | optional inner raw inductionHypothesis =>
      cases raw with
      | null => exact .ok Typed.missing
      | _ => exact inductionHypothesis
  | scalar kind raw => cases kind <;> cases raw <;> first | exact .ok _ | exact .error _
  | any raw => cases raw <;> exact .ok _
  | sequence item raw inductionHypothesis =>
      cases raw with
      | array items =>
          have anywhere := registry.structuresAnywhere_of_mem_itemCandidates inductionHypothesis
          exact (Candidate.relocates_structureItems anywhere item 0).bind fun _ => .ok _
      | _ => exact .error _
  | set item raw inductionHypothesis =>
      cases raw with
      | array items =>
          have anywhere := registry.structuresAnywhere_of_mem_itemCandidates inductionHypothesis
          exact (Candidate.relocates_structureItems anywhere item 0).bind fun _ => .ok _
      | _ => exact .error _
  | mapping key type raw inductionHypothesis =>
      cases raw with
      | map entries =>
          have anywhere := registry.structuresAnywhere_of_mem_entryCandidates
            fun entry member => inductionHypothesis entry.2 (Value.mem_parts_map member)
          by_cases textKeys : key = .str
          · subst textKeys
            exact (Candidate.relocates_structureEntries anywhere type).bind fun _ => .ok _
          · simp only [structureAt, TypeExpr.required, Value.isNull, if_neg textKeys]
            exact .error _
      | _ => exact .error _
  | record name raw inductionHypothesis =>
      cases raw with
      | map entries =>
          have anywhere := registry.structuresAnywhere_of_mem_entryCandidates
            fun entry member => inductionHypothesis entry.2 (Value.mem_parts_map member)
          simp only [structureAt, TypeExpr.required, Value.isNull]
          cases registry.record? name with
          | none => exact .error _
          | some recordType =>
              exact (recordType.relocates_structureInput anywhere).bind fun _ => .ok _
      | _ =>
          simp only [structureAt, TypeExpr.required, TypeExpr.isOptional]
          cases registry.record? name <;> exact .error _
  | custom name raw =>
      have relocates := registry.relocates_structureCustom name raw
      cases raw <;> exact relocates

/-- A value at a place is structured as it is on its own, with the place in front of the path of its
error. -/
theorem structureAt_eq (raw : Value) (place : Path) (type : TypeExpr) :
    registry.structureAt raw place type =
      (registry.structureAs raw type).mapError (.below place) :=
  (registry.relocates_structureAt raw type).eq_mapError place

/-- An item, entry or field of a whole fails as it does on its own, one step further down. -/
theorem structureAt_child (raw : Value) (component : String) (type : TypeExpr) :
    registry.structureAt raw (Path.root.child component) type =
      (registry.structureAs raw type).mapError (.under component) := by
  rw [structureAt_eq]
  exact congrArg (registry.structureAs raw type).mapError
    (funext (StructureError.below_child component))

/-- What is structured alike on its own is structured alike in every place. -/
theorem structureAt_congr {left right : Registry Payload} {raw otherRaw : Value} {type : TypeExpr}
    (same : left.structureAs raw type = right.structureAs otherRaw type) (place : Path) :
    left.structureAt raw place type = right.structureAt otherRaw place type := by
  rw [structureAt_eq, structureAt_eq, same]

/-! ## Parts of a whole -/

theorem structureItems_cons (item : TypeExpr) (position : Nat) (raw : Value) (rest : List Value) :
    Candidate.structureItems item .root position (registry.itemCandidates (raw :: rest)) = (do
      let first ← (registry.structureAs raw item).mapError (.under (toString position))
      let others ← Candidate.structureItems item .root (position + 1)
        (registry.itemCandidates rest)
      .ok (first :: others)) := by
  rw [itemCandidates, Candidate.structureItems, ← structureAt_child]
  rfl

theorem structureEntries_eq (type : TypeExpr) (entries : Entries Value) :
    Candidate.structureEntries type .root (registry.entryCandidates entries) =
      Entries.sequence (entries.map fun entry =>
        (entry.1, (registry.structureAs entry.2 type).mapError (.under entry.1))) := by
  rw [Candidate.structureEntries, entryCandidates_eq_mapValues, Entries.mapValues, List.map_map]
  simp only [← structureAt_child]
  rfl

end Registry

end Recast
