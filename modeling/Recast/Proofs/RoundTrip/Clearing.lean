import Recast.Proofs.RoundTrip.Rereading

/-!
# Fields that were cleared

A missing value is written as `null`, and an optional field that finds `null` is filled as if it
found nothing: with its default, if it has one.  So an optional field that was cleared stays cleared
when the record is written and read again if it has no default or its default is `null`; any other
default comes back in its place.
-/

namespace Recast

variable {Payload : Type} [BEq Payload]

omit [BEq Payload] in
/-- An optional field falls back on its default, or on the missing value if it has none. -/
theorem Field.fallback?_of_isOptional {field : Field (Typed Payload)}
    (optional : field.type.isOptional = true) :
    field.fallback? = some ((field.default?.map FieldDefault.typed).getD .missing) := by
  rw [fallback?_eq_some_iff]
  cases declared : field.default? with
  | none => exact .inr ⟨rfl, optional, rfl⟩
  | some default => exact .inl ⟨default, rfl, rfl⟩

namespace Record

/-- The record can be written with all fields and read again, and then holds the value in the
field of the given name. -/
def ReadsAgainAs (registry : Registry Payload) (record : Record (Typed Payload)) (name : String)
    (value : Typed Payload) : Prop :=
  ∃ raw again, registry.unstructureRecord .written record = .ok raw ∧
    registry.structureRecord record.typeName raw = .ok again ∧ again.get? name = some value

variable {alphabet : Text.Alphabet} {registry : Registry Payload}
  {record changed : Record (Typed Payload)} {name : String}
  {value old : Typed Payload}

theorem ReadsAgainAs.unique {other : Typed Payload}
    (first : record.ReadsAgainAs registry name value)
    (second : record.ReadsAgainAs registry name other) :
    value = other := by
  obtain ⟨raw, again, written, read, held⟩ := first
  obtain ⟨otherRaw, otherAgain, otherWritten, otherRead, otherHeld⟩ := second
  rw [written] at otherWritten
  cases otherWritten
  rw [read] at otherRead
  cases otherRead
  rw [held] at otherHeld
  exact Option.some.inj otherHeld

theorem owned_of_set (owned : (Typed.record record).Owned registry)
    (isSet : record.set name value = .ok (old, changed)) (valueOwned : value.Owned registry) :
    (Typed.record changed).Owned registry := by
  obtain ⟨field, _, _, _, rfl⟩ := (set_eq_ok_iff record name value old changed).1 isSet
  obtain ⟨here, parts⟩ := (Typed.everywhere_record_iff record).1 owned
  refine (Typed.everywhere_record_iff _).2 ⟨here, fun entry entryMember => ?_⟩
  rcases Entries.mem_of_mem_insert entryMember with rfl | earlier
  · exact valueOwned
  · exact parts entry earlier

/-- An optional field that is missing takes its default, if it has one, when the record is written
and read again. -/
theorem readsAgainAs_default_of_missing (built : registry.Built alphabet)
    (lawful : ∀ name hook, registry.hook? name = some hook → hook.Lawful)
    (regular : (Typed.record record).Regular) (owned : (Typed.record record).Owned registry)
    {field : Field (Typed Payload)} (member : field ∈ record.recordType.fields)
    (optional : field.type.isOptional = true) (missing : record.get? field.name = some .missing) :
    record.ReadsAgainAs registry field.name
      ((field.default?.map FieldDefault.typed).getD .missing) := by
  have admitted : (TypeExpr.record record.typeName).admits (.record record) = true :=
    (TypeExpr.admits_record_iff _ _).2 ⟨record, rfl, rfl⟩
  obtain ⟨recordType, valueOf, extras?, layout, isRecord, registered, each⟩ :=
    Typed.exists_table_of_admits admitted regular owned
  cases isRecord
  have here := regular.here
  have distinct : recordType.DistinctFields := here.wellDeclared.distinct
  have isMissing : valueOf field = .missing :=
    Option.some.inj ((RecordType.lookup_table distinct valueOf member).symm.trans missing)
  have fields : ∀ other ∈ recordType.fields,
      registry.Rereads .written other.type (valueOf other) := by
    intro other otherMember
    obtain ⟨partMember, valueKeyed, valueAdmitted⟩ := each other otherMember
    exact rereads_of_admits built lawful .written valueKeyed valueAdmitted
      (regular.inside partMember) (owned.inside partMember)
  have yields := Yields.record registered here fields
  have read := (Registry.structureAs_record_iff registry _ _ _).1 yields.read
  refine ⟨_, _, yields.written, read, ?_⟩
  -- The field was written as `null`, so it finds nothing.
  have gap : field.isGap .written (valueOf field) = true := by
    rw [Field.isGap, optional, isMissing, Bool.true_and]
    exact Bool.or_true _
  change (recordType.table _).lookup field.name = _
  rw [RecordType.lookup_table distinct _ member, Field.takenAgain, if_pos gap,
    Field.fallback?_of_isOptional optional, Option.getD_some]

end Record

namespace Registry

variable {alphabet : Text.Alphabet} {registry : Registry Payload}

/-- As an optional type, only `null` is structured as the missing value. -/
theorem Structures.eq_missing_iff {type : TypeExpr} {raw : Value} {value : Typed Payload}
    (structures : registry.Structures type raw value) (optional : type.isOptional = true) :
    value = .missing ↔ raw = .null := by
  cases structures with
  | missing inner => exact iff_of_true rfl rfl
  | optional present structuresInner =>
      have valuePresent := structuresInner.isMissing_eq_false present
      refine iff_of_false ?_ ?_
      · rintro rfl
        contradiction
      · rintro rfl
        contradiction
  | _ => contradiction

/-- A record that is written with an optional field cleared is read with the default of the field,
or with the field still cleared if it has none.  So the field stays cleared exactly if no other
default than `null` is declared for it. -/
theorem cleared_field_reads_default (built : registry.Built alphabet)
    (lawful : ∀ name hook, registry.hook? name = some hook → hook.Lawful)
    {record : Record (Typed Payload)} (reached : Reached record)
    (owned : (Typed.record record).Owned registry) {field : Field (Typed Payload)}
    (member : field ∈ record.recordType.fields) (optional : field.type.isOptional = true)
    {old : Typed Payload} {changed : Record (Typed Payload)}
    (cleared : record.set field.name .missing = .ok (old, changed)) :
    changed.ReadsAgainAs registry field.name
        ((field.default?.map FieldDefault.typed).getD .missing) ∧
      (changed.ReadsAgainAs registry field.name .missing ↔
        ∀ default, field.default? = some default → default.raw = .null) := by
  obtain ⟨_, changedAt⟩ := Record.changedAt_of_set cleared
  have nothingOwned : (Typed.missing : Typed Payload).Owned registry :=
    (Typed.everywhere_of_parts_eq_nil rfl).2 trivial
  have nothingRegular : (Typed.missing : Typed Payload).Regular :=
    (Typed.everywhere_of_parts_eq_nil rfl).2 trivial
  have changedRegular := Record.regular_of_set reached.regular cleared fun _ _ => nothingRegular
  have changedOwned := Record.owned_of_set owned cleared nothingOwned
  have readsDefault := Record.readsAgainAs_default_of_missing built lawful changedRegular
    changedOwned (changedAt.recordType ▸ member) optional changedAt.new
  refine ⟨readsDefault, ?_⟩
  cases declared : field.default? with
  | none =>
      rw [declared] at readsDefault
      exact iff_of_true readsDefault nofun
  | some default =>
      rw [declared] at readsDefault
      have sound := (built.coherent.soundIn owned.here).defaults field member default declared
      have denotesMissing := sound.2.eq_missing_iff optional
      constructor
      · rintro staysCleared other ⟨⟩
        exact denotesMissing.1 (readsDefault.unique staysCleared)
      · intro isNull
        have isMissing : default.typed = .missing := denotesMissing.2 (isNull default rfl)
        exact isMissing ▸ readsDefault

end Registry

/-! ## A task with two optional fields -/

namespace Sample

def taskSpec : RecordSpec where
  name := "Task"
  isOpen := false
  fields := [
    ⟨"due", .tree (.optional .str), none⟩,
    ⟨"priority", .tree (.optional (.scalar .int)), some (.integer 1)⟩]

def dueField : Field (Typed Unit) :=
  ⟨"due", .optional .str, none, none⟩

def priorityField : Field (Typed Unit) :=
  ⟨"priority", .optional (.scalar .int), some ⟨.integer 1, .int 1⟩, none⟩

def taskType : RecordType (Typed Unit) where
  name := "Task"
  isOpen := false
  fields := [dueField, priorityField]

def tasks : Registry Unit where
  records := [taskType]

def taskInput : Value :=
  .map [("due", .string "May"), ("priority", .integer 2)]

/-- A task with the given values in its fields. -/
def task (due priority : Typed Unit) : Record (Typed Unit) where
  recordType := taskType
  values := [("due", due), ("priority", priority)]
  extras? := none
  layout := []

theorem built_tasks : tasks.Built Text.unicode := by
  have wellFormed : taskSpec.WellFormed := by
    simp [RecordSpec.WellFormed, taskSpec, Value.WellFormed]
  have declared : Registry.declare Text.unicode {} taskSpec = .ok (taskType, tasks) := rfl
  exact .declare .empty wellFormed declared

theorem reached_task : Reached (task (.str "May") (.int 2)) := by
  have wellFormed : taskInput.WellFormed := by
    simp [taskInput, Value.WellFormed, Value.EntriesWellFormed]
  have structured : tasks.structureRecord "Task" taskInput = .ok (task (.str "May") (.int 2)) := rfl
  exact .of_structureRecord built_tasks wellFormed structured

theorem owned_task : (Typed.record (task (.str "May") (.int 2))).Owned tasks := by
  refine (Typed.everywhere_record_iff _).2 ⟨rfl, ?_⟩
  simp only [task, List.forall_mem_cons, List.not_mem_nil, false_implies, implies_true, and_true]
  exact ⟨(Typed.everywhere_of_parts_eq_nil rfl).2 trivial,
    (Typed.everywhere_of_parts_eq_nil rfl).2 trivial⟩

/-- The due date has no default and stays cleared; the priority comes back as its default. -/
theorem cleared_fields_of_task :
    (task (.str "May") (.int 2)).set "due" .missing =
        .ok (.str "May", task .missing (.int 2)) ∧
      (task .missing (.int 2)).ReadsAgainAs tasks "due" .missing ∧
      (task (.str "May") .missing).ReadsAgainAs tasks "priority" (.int 1) := by
  have lawful : ∀ name hook, tasks.hook? name = some hook → hook.Lawful := nofun
  have clearedDue : (task (.str "May") (.int 2)).set "due" .missing =
      .ok (.str "May", task .missing (.int 2)) := rfl
  have clearedPriority : (task (.str "May") (.int 2)).set "priority" .missing =
      .ok (.int 2, task (.str "May") .missing) := rfl
  have due : dueField ∈ taskType.fields := by simp [taskType]
  have priority : priorityField ∈ taskType.fields := by simp [taskType]
  have readsDue := Registry.cleared_field_reads_default built_tasks lawful reached_task owned_task
    due rfl clearedDue
  have readsPriority := Registry.cleared_field_reads_default built_tasks lawful reached_task
    owned_task priority rfl clearedPriority
  exact ⟨clearedDue, readsDue.1, readsPriority.1⟩

/-! ## A lamp with a payload that is foreign to its hook -/

/-- Only a switch that is on has an untyped form. -/
def switchHook : Hook Bool where
  structurePayload
    | .bool true => .ok true
    | _ => .error "a switch is on"
  payloadType := "switch"
  unstructurePayload? payload := if payload then some (.bool true) else none

def lampSpec : RecordSpec where
  name := "Lamp"
  isOpen := false
  fields := [⟨"note", .tree (.optional .str), none⟩, ⟨"switch", .tree (.custom "Switch"), none⟩]

def noteField : Field (Typed Bool) :=
  ⟨"note", .optional .str, none, none⟩

def lampType : RecordType (Typed Bool) where
  name := "Lamp"
  isOpen := false
  fields := [noteField, ⟨"switch", .custom "Switch", none, some .present⟩]

def lamps : Registry Bool where
  records := [lampType]
  hooks := [("Switch", switchHook)]

/-- A lamp that was made with a switch that is off. -/
def lamp : Record (Typed Bool) where
  recordType := lampType
  values := [("note", .missing), ("switch", .custom "Switch" false)]
  extras? := none
  layout := []

theorem wellTyped_switchHook : switchHook.WellTyped where
  ownKind raw payload structured := by
    simp only [switchHook] at structured
    split at structured
    · cases structured
      rfl
    · contradiction
  wellFormed payload raw written := by
    cases payload with
    | true =>
        cases written
        trivial
    | false => contradiction

theorem lawful_switchHook : switchHook.Lawful := by
  intro payload raw written
  cases payload with
  | true =>
      cases written
      exact ⟨rfl, true, rfl, rfl⟩
  | false => contradiction

theorem built_lamps : lamps.Built Text.unicode := by
  have wellFormed : lampSpec.WellFormed := by
    simp [RecordSpec.WellFormed, lampSpec]
  have registered : Registry.register Text.unicode {} "Switch" switchHook =
      .ok ⟨[], [("Switch", switchHook)]⟩ := rfl
  have withHook := Registry.Built.register .empty wellTyped_switchHook registered
  have declared : Registry.declare Text.unicode ⟨[], [("Switch", switchHook)]⟩ lampSpec =
      .ok (lampType, lamps) := rfl
  exact .declare withHook wellFormed declared

theorem lawful_lamps (name : String) (hook : Hook Bool) (found : lamps.hook? name = some hook) :
    hook.Lawful := by
  cases List.mem_singleton.1 (Entries.mem_of_lookup found)
  exact lawful_switchHook

theorem reached_lamp : Reached lamp := by
  have declared : lampType.Declared := ⟨_, lamps, built_lamps, List.mem_singleton_self _⟩
  have constructed : lampType.construct [("switch", .custom "Switch" false)] = .ok lamp := rfl
  refine .constructed declared ?_ ?_ constructed
  · rw [List.forall_mem_singleton]
    exact (Typed.everywhere_of_parts_eq_nil rfl).2 trivial
  · rw [List.forall_mem_singleton]
    rintro held (_ | ⟨member, _⟩)
    contradiction

/-- A cleared priority is written as `null` and read as one, the default, and not as cleared.  A
lamp whose switch is foreign to its hook cannot be written at all, with its note cleared or not. -/
theorem not_readsAgainAs_missing :
    (tasks.Built Text.unicode ∧ (∀ name hook, tasks.hook? name = some hook → hook.Lawful) ∧
      Reached (task (.str "May") (.int 2)) ∧
      (Typed.record (task (.str "May") (.int 2))).Owned tasks ∧
      priorityField ∈ taskType.fields ∧ priorityField.type.isOptional = true ∧
      (task (.str "May") (.int 2)).set "priority" .missing =
        .ok (.int 2, task (.str "May") .missing) ∧
      ¬ (task (.str "May") .missing).ReadsAgainAs tasks "priority" .missing) ∧
    (lamps.Built Text.unicode ∧ (∀ name hook, lamps.hook? name = some hook → hook.Lawful) ∧
      Reached lamp ∧
      noteField ∈ lampType.fields ∧ noteField.type.isOptional = true ∧
      noteField.default? = none ∧ lamp.set "note" .missing = .ok (.missing, lamp) ∧
      ¬ lamp.ReadsAgainAs lamps "note" .missing) := by
  constructor
  · refine ⟨built_tasks, nofun, reached_task, owned_task, by simp [taskType], rfl, rfl, ?_⟩
    have readsDefault : (task (.str "May") .missing).ReadsAgainAs tasks "priority" (.int 1) :=
      ⟨.map [("due", .string "May"), ("priority", .null)], task (.str "May") (.int 1), rfl, rfl,
        rfl⟩
    intro staysCleared
    have same := staysCleared.unique readsDefault
    contradiction
  · refine ⟨built_lamps, lawful_lamps, reached_lamp, by simp [lampType], rfl, rfl, rfl, ?_⟩
    rintro ⟨raw, again, written, _⟩
    contradiction

end Sample

end Recast
