import Recast.Record.Assembly
import Recast.Registry.Basic

/-!
# Structuring: from untyped to typed values

An untyped value is structured as a type.  Integers widen to floats; `null` is missing for an
optional type; sets keep the first of equal elements; records and custom types are looked up in
the registry.  A record is structured in two rounds, each in the order of declaration: first every
field that is there is structured, then the record is assembled, which validates what is there and
fills in what is not.

The path of the value is handed down, one component longer for each part, so that an error is made
with the path from the top.  The recursion is on the untyped value.  Its parts are handed on as
candidates: untyped values together with what they structure to.  `itemCandidates_eq_map` and
`entryCandidates_eq_mapValues` say that these are the parts with the function itself.
-/

namespace Recast

variable {Payload : Type} [BEq Payload]

/-- An untyped value together with what it structures to, at each path and as each type. -/
structure Candidate (Payload : Type) where
  raw : Value
  structuredAt : Path → TypeExpr → Except StructureError (Typed Payload)

namespace Candidate

/-- Structure all items of the array at `path` as the same type, until one fails.  Positions count
from `position`. -/
def structureItems (item : TypeExpr) (path : Path) (position : Nat) :
    List (Candidate Payload) → Except StructureError (List (Typed Payload))
  | [] => .ok []
  | candidate :: rest => do
      let first ← candidate.structuredAt (path.index position) item
      let others ← structureItems item path (position + 1) rest
      .ok (first :: others)

/-- Structure all entries of the map at `path` as the same type, until one fails. -/
def structureEntries (value : TypeExpr) (path : Path) (candidates : Entries (Candidate Payload)) :
    Except StructureError (Entries (Typed Payload)) :=
  Entries.sequence <| candidates.map fun entry =>
    (entry.1, entry.2.structuredAt (path.child entry.1) value)

end Candidate

/-- What is supplied for a field of the record at `path` by the entry of its name.  A `null`
supplies nothing to an optional field.  To a field whose type does not accept it but which has a
validator it supplies a missing value, which the validator then reports. -/
def Field.supply (field : Field (Typed Payload)) (path : Path) (candidate : Candidate Payload) :
    Except StructureError (Option (Typed Payload)) :=
  if candidate.raw.isNull && field.type.isOptional then
    .ok none
  else if candidate.raw.isNull && !field.type.acceptsNull && field.validator?.isSome then
    .ok (some .missing)
  else do
    let value ← candidate.structuredAt (path.child field.name) field.type
    .ok (some value)

/-- What is supplied for each of the fields, in their order, until one fails. -/
def Field.supplyAll (path : Path) (candidates : Entries (Candidate Payload)) :
    List (Field (Typed Payload)) → Except StructureError (Entries (Typed Payload))
  | [] => .ok []
  | field :: rest =>
      match candidates.lookup field.name with
      | none => supplyAll path candidates rest
      | some candidate => do
          let supplied ← field.supply path candidate
          let others ← supplyAll path candidates rest
          match supplied with
          | none => .ok others
          | some value => .ok ((field.name, value) :: others)

namespace RecordType

/-- The fault of structuring something else than a map as a record. -/
def notMapping (recordType : RecordType (Typed Payload)) (raw : Value) : StructureFault :=
  .typeMismatch s!"mapping for {recordType.name}" raw.kind

/-- Structure the entries of the map at `path` as a record.  An open type keeps the entries that it
does not declare and the order of all keys. -/
def structureInput (recordType : RecordType (Typed Payload)) (path : Path)
    (candidates : Entries (Candidate Payload)) :
    Except StructureError (Record (Typed Payload)) := do
  let supplied ← Field.supplyAll path candidates recordType.fields
  let values ← recordType.assemble path .trusted supplied
  let undeclared := candidates.filter fun entry => !recordType.declares entry.1
  .ok {
    recordType := recordType
    values := values
    extras? :=
      if recordType.isOpen then
        some (Entries.mapValues Candidate.raw undeclared)
      else
        none
    layout := if recordType.isOpen then Entries.keys candidates else [] }

end RecordType

namespace TypeExpr

/-- The fault of structuring a value of another form as the type. -/
def mismatch (type : TypeExpr) (raw : Value) : StructureFault :=
  .typeMismatch type.text raw.kind

end TypeExpr

namespace Registry

def structureCustom (registry : Registry Payload) (name : String) (path : Path) (raw : Value) :
    Except StructureError (Typed Payload) :=
  match registry.hook? name with
  | none => .error ⟨path, .unregistered name⟩
  | some hook =>
      match hook.structurePayload raw with
      | .ok payload => .ok (.custom name payload)
      | .error reason => .error ⟨path, .hook name reason⟩

mutual

/-- Structure the value at `path` as a type. -/
def structureAt (registry : Registry Payload) (raw : Value) (path : Path) (type : TypeExpr) :
    Except StructureError (Typed Payload) :=
  if raw.isNull && type.isOptional then
    .ok .missing
  else
    match type.required, raw with
    | .scalar .str, .string text => .ok (.str text)
    | .scalar .int, .integer number => .ok (.int number)
    | .scalar .float, .float number => .ok (.float number)
    | .scalar .float, .integer number => .ok (.float (.ofInt number.toInt))
    | .scalar .bool, .bool truth => .ok (.bool truth)
    | .any, kept => .ok (.raw kept)
    | .sequence item, .array items => do
        let structured ← Candidate.structureItems item path 0 (registry.itemCandidates items)
        .ok (.sequence structured)
    | .set item, .array items => do
        let structured ← Candidate.structureItems item path 0 (registry.itemCandidates items)
        .ok (.set (Typed.keepDistinct [] structured))
    | .mapping key value, .map entries =>
        if key = .str then do
          let structured ←
            Candidate.structureEntries value path (registry.entryCandidates entries)
          .ok (.mapping structured)
        else
          .error ⟨path, (TypeExpr.mapping key value).mismatch (.map entries)⟩
    | .record name, .map entries =>
        match registry.record? name with
        | none => .error ⟨path, .unregistered name⟩
        | some recordType => do
            let structured ← recordType.structureInput path (registry.entryCandidates entries)
            .ok (.record structured)
    | .record name, other =>
        match registry.record? name with
        | none => .error ⟨path, .unregistered name⟩
        | some recordType => .error ⟨path, recordType.notMapping other⟩
    | .custom name, input => registry.structureCustom name path input
    | wanted, other => .error ⟨path, wanted.mismatch other⟩

def itemCandidates (registry : Registry Payload) : List Value → List (Candidate Payload)
  | [] => []
  | item :: rest => ⟨item, registry.structureAt item⟩ :: registry.itemCandidates rest

def entryCandidates (registry : Registry Payload) :
    List (String × Value) → List (String × Candidate Payload)
  | [] => []
  | (key, value) :: rest =>
      (key, ⟨value, registry.structureAt value⟩) :: registry.entryCandidates rest

end

/-- Structure a value of its own as a type. -/
def structureAs (registry : Registry Payload) (raw : Value) (type : TypeExpr) :
    Except StructureError (Typed Payload) :=
  registry.structureAt raw .root type

/-! ## Candidates -/

theorem itemCandidates_eq_map (registry : Registry Payload) (items : List Value) :
    registry.itemCandidates items =
      items.map fun item => ⟨item, registry.structureAt item⟩ := by
  induction items with
  | nil => rfl
  | cons item rest inductionHypothesis =>
      simp only [itemCandidates, List.map_cons, inductionHypothesis]

theorem entryCandidates_eq_mapValues (registry : Registry Payload)
    (entries : List (String × Value)) :
    registry.entryCandidates entries =
      Entries.mapValues (fun value => ⟨value, registry.structureAt value⟩) entries := by
  induction entries with
  | nil => rfl
  | cons entry rest inductionHypothesis =>
      rw [entryCandidates, inductionHypothesis]
      rfl

/-! ## Optional types -/

/-- `null` is a missing optional value. -/
theorem structureAs_null_optional (registry : Registry Payload) (inner : TypeExpr) :
    registry.structureAs .null (.optional inner) = .ok .missing :=
  rfl

/-- Whatever else is there is structured as the type below. -/
theorem structureAs_optional (registry : Registry Payload) {raw : Value}
    (present : raw.isNull = false) (inner : TypeExpr) :
    registry.structureAs raw (.optional inner) = registry.structureAs raw inner := by
  cases raw with
  | null => contradiction
  | _ => rfl

/-! ## Records -/

/-- Structure a value as a record of the given type. -/
def structureWith (registry : Registry Payload) (recordType : RecordType (Typed Payload))
    (raw : Value) : Except StructureError (Record (Typed Payload)) :=
  match raw with
  | .map entries => recordType.structureInput .root (registry.entryCandidates entries)
  | _ => .error (.atTop (recordType.notMapping raw))

/-- Structure a value as a record of the type of the given name. -/
def structureRecord (registry : Registry Payload) (name : String) (raw : Value) :
    Except StructureError (Record (Typed Payload)) :=
  match registry.record? name with
  | none => .error (.atTop (.unregistered name))
  | some recordType => registry.structureWith recordType raw

end Registry

end Recast
