import Recast.Proofs.Registry.Hosting
import Recast.Proofs.Registry.Writing
import Recast.Proofs.Typed.Equality

/-!
# Equal typed values are unstructured as equal values

Equality of typed values is a lawful equality, and unstructuring respects it: of equal values both
have untyped forms or neither has, and the forms are equal.  The remembered key orders may differ,
and so may the order of keys in the outputs.  Stripping leaves out the same fields on both sides,
since a default equals the one value exactly if it equals the other.
-/

namespace Recast

variable {Payload : Type}

/-- What is the same at a key, or for both sides absent and then filled in with the same. -/
theorem rel_getD {α β : Type} {same : α → β → Prop} {found? : Option α} {otherFound? : Option β}
    (related : Option.Rel same found? otherFound?) {filled : α} {otherFilled : β}
    (sameFilled : same filled otherFilled) :
    same (found?.getD filled) (otherFound?.getD otherFilled) := by
  cases related with
  | none => exact sameFilled
  | some sameFound => exact sameFound

/-- The type of every record is registered, and the key order it remembers has no key twice. -/
def Typed.RegisteredHere (registry : Registry Payload) : Typed Payload → Prop
  | .record held =>
      registry.record? held.typeName = some held.recordType ∧ held.layout.Nodup
  | _ => True

/-- All records in the value are of types of the registry. -/
def Typed.Registered (registry : Registry Payload) (value : Typed Payload) : Prop :=
  Everywhere parts (RegisteredHere registry) value

variable [BEq Payload]

/-! ## Alike outcomes -/

/-- Equal payloads are accepted alike, and then have equal untyped forms. -/
def Hook.WritesAlike (hook : Hook Payload) : Prop :=
  ∀ payload other, (payload == other) = true →
    Option.Rel (fun value otherValue => value.equal otherValue = true)
      (hook.unstructurePayload? payload) (hook.unstructurePayload? other)

/-- Outcomes for equal values: equal untyped values, or errors on both sides. -/
def WrittenAlike (outcome other : Except UnstructureError Value) : Prop :=
  Outcome.Alike (fun raw otherRaw => raw.equal otherRaw = true) outcome other

theorem HostHook.hook_writesAlike {Host : Type} {Carrier : Host → Type} [DecidableEq Host]
    [∀ host, BEq (Carrier host)] {hostHook : HostHook Carrier}
    (writesAlike : hostHook.WritesAlike) :
    hostHook.hook.WritesAlike := by
  intro payload other same
  obtain ⟨host, held, otherHeld, rfl, rfl, sameHeld⟩ := (Hosted.beq_iff payload other).1 same
  by_cases ofType : host = hostHook.host
  · subst ofType
    rw [unstructurePayload?_hook_self, unstructurePayload?_hook_self]
    exact .some (writesAlike held otherHeld sameHeld)
  · have foreign (any : Carrier host) : hostHook.hook.unstructurePayload? ⟨host, any⟩ = none :=
      unstructurePayload?_hook_of_ne ofType
    rw [foreign, foreign]
    exact .none

/-! ## Records -/

variable [PartialEquivBEq Payload]

/-- Equal values are both the default of the field or both not. -/
theorem Field.isDefault_congr (field : Field (Typed Payload)) {value other : Typed Payload}
    (wellFormed : value.WellFormed) (same : value.equal other = true) :
    field.isDefault value = field.isDefault other := by
  rw [isDefault, isDefault]
  cases field.default? with
  | none => rfl
  | some default =>
      rw [Bool.eq_iff_iff]
      exact ⟨fun isValue => Typed.equal_trans isValue same,
        fun isOther => Typed.equal_trans isOther (Typed.equal_symm wellFormed same)⟩

/-- Entries written on both sides: no key twice, and equal values under the same keys. -/
def EntriesAlike (written otherWritten : Entries Value) : Prop :=
  (Entries.keys written).Nodup ∧ (Entries.keys otherWritten).Nodup ∧
    Entries.Agree (fun raw other => raw.equal other = true) written otherWritten

/-- Fields with equal values are written alike over entries that are alike. -/
theorem Record.writeFields_alike {values otherValues : Entries (Typed Payload)}
    {outputs otherOutputs : Entries (Except UnstructureError Value)} (defaults : DefaultFields)
    (sameValues : ∀ key, Option.Rel (fun value other => value.WellFormed ∧
      value.equal other = true) (values.lookup key) (otherValues.lookup key))
    (sameOutputs : ∀ key, Option.Rel WrittenAlike (outputs.lookup key) (otherOutputs.lookup key))
    (fields : List (Field (Typed Payload))) {written otherWritten : Entries Value}
    (alike : EntriesAlike written otherWritten) :
    Outcome.Alike EntriesAlike (writeFields values defaults outputs fields written)
      (writeFields otherValues defaults otherOutputs fields otherWritten) := by
  induction fields generalizing written otherWritten with
  | nil => exact .ok alike
  | cons field rest inductionHypothesis =>
      obtain ⟨distinct, otherDistinct, agree⟩ := alike
      have bothMissing : (Typed.missing : Typed Payload).WellFormed ∧
          (Typed.missing : Typed Payload).equal .missing = true :=
        ⟨(Typed.everywhere_of_parts_eq_nil rfl).2 trivial, rfl⟩
      obtain ⟨wellFormed, same⟩ := rel_getD (sameValues field.name) bothMissing
      simp only [writeFields, field.isDefault_congr wellFormed same]
      split
      · exact inductionHypothesis ⟨Entries.nodup_keys_erase distinct _,
          Entries.nodup_keys_erase otherDistinct _, agree.erase distinct otherDistinct _⟩
      · refine (rel_getD (sameOutputs field.name) (.ok rfl)).bind ?_
        intro raw other sameRaw
        exact inductionHypothesis ⟨Entries.nodup_keys_insert distinct _ _,
          Entries.nodup_keys_insert otherDistinct _ _,
          agree.insert distinct otherDistinct _ sameRaw⟩

/-! ## Collections -/

namespace Registry

variable {registry : Registry Payload} {defaults : DefaultFields}

omit [PartialEquivBEq Payload] in
theorem unstructureItems_alike {items others : List (Typed Payload)}
    (alike : List.Forall₂ (fun item other => WrittenAlike (registry.unstructure defaults item)
      (registry.unstructure defaults other)) items others) :
    Outcome.Alike (List.Forall₂ fun raw other => raw.equal other = true)
      (registry.unstructureItems defaults items) (registry.unstructureItems defaults others) := by
  induction alike with
  | nil => exact .ok .nil
  | cons first _ inductionHypothesis =>
      rw [unstructureItems, unstructureItems]
      exact first.bind fun _ _ sameFirst => inductionHypothesis.bind fun _ _ sameRest =>
        .ok (.cons sameFirst sameRest)

omit [PartialEquivBEq Payload] in
theorem unstructureArray_alike {items others : List (Typed Payload)}
    (alike : List.Forall₂ (fun item other => WrittenAlike (registry.unstructure defaults item)
      (registry.unstructure defaults other)) items others) :
    WrittenAlike (registry.unstructureItems defaults items >>= fun raws => .ok (.array raws))
      (registry.unstructureItems defaults others >>= fun raws => .ok (.array raws)) := by
  refine (unstructureItems_alike alike).bind fun raws otherRaws same => .ok ?_
  rw [Value.equal, Value.equalItems_iff]
  exact same

omit [PartialEquivBEq Payload] in
theorem unstructureCustom_alike
    (hooks : ∀ name hook, registry.hook? name = some hook → hook.WritesAlike) (name : String)
    {payload other : Payload} (same : (payload == other) = true) :
    WrittenAlike (registry.unstructureCustom name payload)
      (registry.unstructureCustom name other) := by
  rw [unstructureCustom, unstructureCustom]
  cases registered : registry.hook? name with
  | none => exact .error _ _
  | some hook =>
      have written := hooks name hook registered payload other same
      dsimp only
      generalize hook.unstructurePayload? payload = raw? at written ⊢
      generalize hook.unstructurePayload? other = otherRaw? at written ⊢
      cases written with
      | none => exact .error _ _
      | some sameRaw => exact .ok sameRaw

/-- Entries in any order are written alike if their values are, key by key. -/
theorem sequence_alike {α β ε : Type} {same : α → β → Prop} {computed : Entries (Except ε α)}
    {others : Entries (Except ε β)} (agree : Entries.Agree (Outcome.Alike same) computed others)
    (distinct : (Entries.keys computed).Nodup) :
    Outcome.Alike (Entries.Agree same) (Entries.sequence computed) (Entries.sequence others) := by
  refine (Outcome.alike_iff _ _ _).2 ⟨?_, ?_⟩
  · rw [Outcome.exists_sequence_eq_ok_iff, Outcome.exists_sequence_eq_ok_iff]
    exact (agree.imp fun _ _ alike => ((Outcome.alike_iff _ _ _).1 alike).1).forall_mem_iff distinct
  · intro values otherValues computedOk othersOk
    rw [Entries.sequence_eq_ok_iff] at computedOk othersOk
    subst computedOk
    subst othersOk
    refine (Entries.Agree.mapValues_iff fun entry _ other => ?_).1 agree
    refine ⟨fun alike => ?_, .ok⟩
    cases alike with
    | ok sameValue => exact sameValue

omit [PartialEquivBEq Payload] in
theorem unstructureEntries_agree {entries others : Entries (Typed Payload)}
    (same : Entries.Agree (fun value other => value.equal other = true) entries others)
    (each : ∀ entry ∈ entries, ∀ other ∈ others, entry.2.equal other.2 = true →
      WrittenAlike (registry.unstructure defaults entry.2)
        (registry.unstructure defaults other.2)) :
    Entries.Agree WrittenAlike (registry.unstructureEntries defaults entries)
      (registry.unstructureEntries defaults others) := by
  rw [unstructureEntries_eq_mapValues, unstructureEntries_eq_mapValues]
  exact same.mapValues_of_same each

omit [PartialEquivBEq Payload] in
theorem keys_unstructureEntries (entries : Entries (Typed Payload)) :
    Entries.keys (registry.unstructureEntries defaults entries) = Entries.keys entries := by
  rw [unstructureEntries_eq_mapValues, Entries.keys_mapValues]

/-! ## All values -/

/-- Equal values are written alike. -/
theorem unstructure_alike
    (hooks : ∀ name hook, registry.hook? name = some hook → hook.WritesAlike)
    {left right : Typed Payload} (wellFormed : left.WellFormed) (otherWellFormed : right.WellFormed)
    (registered : left.Registered registry) (otherRegistered : right.Registered registry)
    (same : left.equal right = true) :
    WrittenAlike (registry.unstructure defaults left) (registry.unstructure defaults right) := by
  induction left using Typed.partsInduction generalizing right with
  | step left inductionHypothesis =>
      have partAlike : ∀ part ∈ left.parts, ∀ other ∈ right.parts, part.equal other = true →
          WrittenAlike (registry.unstructure defaults part)
            (registry.unstructure defaults other) :=
        fun part member other otherMember =>
          inductionHypothesis part member (wellFormed.inside member)
            (otherWellFormed.inside otherMember) (registered.inside member)
            (otherRegistered.inside otherMember)
      cases left with
      | sequence items =>
          cases right with
          | sequence others =>
              rw [Typed.equal_sequence_iff] at same
              rw [unstructure, unstructure]
              exact unstructureArray_alike <| (Entries.forall₂_mem same).imp fun item other both =>
                partAlike item both.1 other both.2.1 both.2.2
          | _ => simp [Typed.equal] at same
      | set items =>
          cases right with
          | set others =>
              rw [Typed.equal_set_iff] at same
              rw [unstructure, unstructure]
              exact unstructureArray_alike <| (Entries.forall₂_mem same).imp fun item other both =>
                partAlike item both.1 other both.2.1 both.2.2
          | _ => simp [Typed.equal] at same
      | mapping entries =>
          cases right with
          | mapping others =>
              rw [Typed.equal_mapping_iff] at same
              rw [unstructure, unstructure]
              have outputs := unstructureEntries_agree same
                fun entry member other otherMember =>
                  partAlike entry.2 (Typed.mem_parts_mapping member) other.2
                    (Typed.mem_parts_mapping otherMember)
              have distinct : (Entries.keys
                  (registry.unstructureEntries defaults entries)).Nodup := by
                rw [keys_unstructureEntries]
                exact wellFormed.here
              exact (sequence_alike outputs distinct).bind fun raws otherRaws agree =>
                .ok ((Value.equal_map_iff raws otherRaws).2 agree)
          | _ => simp [Typed.equal] at same
      | record held =>
          cases right with
          | record other =>
              obtain ⟨recordType, values, extras?, layout⟩ := held
              obtain ⟨otherType, otherValues, otherExtras?, otherLayout⟩ := other
              rw [Typed.equal_record_iff, Typed.extrasEqual_iff] at same
              obtain ⟨sameName, sameValues, _, sameExtras⟩ := same
              have sameType : recordType = otherType := by
                have found := registered.here.1
                rw [sameName, otherRegistered.here.1, Option.some.injEq] at found
                exact found.symm
              subst sameType
              have outputs := unstructureEntries_agree sameValues
                fun entry member other otherMember =>
                  partAlike entry.2 (Typed.mem_parts_record member) other.2
                    (Typed.mem_parts_record otherMember)
              rw [unstructure, unstructure]
              refine (Record.writeFields_alike defaults ?_ ?_ recordType.fields ?_).bind ?_
              · exact (sameValues.and_left fun entry member =>
                  wellFormed.inside (Typed.mem_parts_record member)).rel_lookup wellFormed.here.1
              · apply outputs.rel_lookup
                rw [keys_unstructureEntries]
                exact wellFormed.here.1
              · exact ⟨wellFormed.here.2.1, otherWellFormed.here.2.1,
                  (Value.equal_map_iff _ _).1 sameExtras⟩
              · intro written otherWritten alike
                obtain ⟨distinct, otherDistinct, agree⟩ := alike
                rw [Entries.reorder_eq_arrange distinct registered.here.2,
                  Entries.reorder_eq_arrange otherDistinct otherRegistered.here.2]
                exact .ok ((Value.equal_map_iff _ _).2 (agree.arrange distinct otherDistinct
                  registered.here.2 otherRegistered.here.2))
          | _ => simp [Typed.equal] at same
      | custom name payload =>
          cases right with
          | custom otherName other =>
              rw [Typed.equal, Bool.and_eq_true, beq_iff_eq] at same
              obtain ⟨rfl, samePayload⟩ := same
              exact unstructureCustom_alike hooks name samePayload
          | _ => simp [Typed.equal] at same
      | missing =>
          cases right with
          | missing => exact .ok rfl
          | _ => simp [Typed.equal] at same
      | bool truth =>
          cases right with
          | bool other => exact .ok same
          | _ => simp [Typed.equal] at same
      | int number =>
          cases right with
          | int other => exact .ok same
          | _ => simp [Typed.equal] at same
      | float number =>
          cases right with
          | float other => exact .ok same
          | _ => simp [Typed.equal] at same
      | str text =>
          cases right with
          | str other => exact .ok same
          | _ => simp [Typed.equal] at same
      | raw value =>
          cases right with
          | raw other => exact .ok same
          | _ => simp [Typed.equal] at same

end Registry

/-! ## The laws together -/

/-- Equality of typed values is symmetric and transitive, and reflexive exactly where there is no
NaN and every payload equals itself.  Equal values have untyped forms alike, with defaults written
or stripped, and these are equal. -/
theorem Typed.equality_laws {Host : Type} [DecidableEq Host] {Carrier : Host → Type}
    [∀ host, BEq (Carrier host)] [∀ host, PartialEquivBEq (Carrier host)] :
    (∀ left right : Typed (Hosted Carrier), left.WellFormed →
      (left == right) = true → (right == left) = true) ∧
    (∀ left middle right : Typed (Hosted Carrier),
      (left == middle) = true → (middle == right) = true → (left == right) = true) ∧
    (∀ value : Typed (Hosted Carrier), value.WellFormed →
      ((value == value) = true ↔ value.NaNFree ∧ value.PayloadsReflexive)) ∧
    ∀ registry : Registry (Hosted Carrier),
      (∀ name hook, registry.hook? name = some hook →
        ∃ hostHook : HostHook Carrier, hook = hostHook.hook ∧ hostHook.WritesAlike) →
      ∀ left right : Typed (Hosted Carrier), left.WellFormed → right.WellFormed →
        left.Registered registry → right.Registered registry → (left == right) = true →
        ∀ defaults,
          ((∃ raw, registry.unstructure defaults left = .ok raw) ↔
            ∃ other, registry.unstructure defaults right = .ok other) ∧
          ∀ raw other, registry.unstructure defaults left = .ok raw →
            registry.unstructure defaults right = .ok other → (raw == other) = true := by
  refine ⟨?_, ?_, ?_, ?_⟩
  · intro left right wellFormed same
    exact equal_symm wellFormed same
  · intro left middle right sameLeft sameRight
    exact equal_trans sameLeft sameRight
  · intro value wellFormed
    exact equal_self_iff wellFormed
  · intro registry hostHooks left right wellFormed otherWellFormed registered otherRegistered same
      defaults
    have hooks : ∀ name hook, registry.hook? name = some hook → hook.WritesAlike := by
      intro name hook found
      obtain ⟨hostHook, rfl, writesAlike⟩ := hostHooks name hook found
      exact HostHook.hook_writesAlike writesAlike
    exact (Outcome.alike_iff _ _ _).1 (Registry.unstructure_alike hooks wellFormed otherWellFormed
      registered otherRegistered same)

namespace Sample

def crateType : RecordType (Typed (Hosted Paper)) where
  name := "Crate"
  isOpen := true
  fields := [⟨"label", .custom "Label", none, none⟩,
    ⟨"count", .scalar .int, some ⟨.integer 1, .int 1⟩, none⟩]

def crates : Registry (Hosted Paper) where
  records := [crateType]
  hooks := [("Label", labelHook.hook)]

/-- A crate with one item, which is the default. -/
def crate : Record (Typed (Hosted Paper)) where
  recordType := crateType
  values := [("label", .custom "Label" ⟨true, "fragile"⟩), ("count", .int 1)]
  extras? := some [("height", .integer 1), ("width", .null)]
  layout := ["width", "label", "height"]

/-- The same crate, its kept entries in another order and the height as a float. -/
def sameCrate : Record (Typed (Hosted Paper)) :=
  { crate with
    extras? := some [("width", .null), ("height", .float ⟨0x3ff0000000000000⟩)]
    layout := ["label"] }

theorem wellFormed_crate {extras? : Option (Entries Value)} {layout : List String}
    (extrasWellFormed : (Value.map (extras?.getD [])).WellFormed) :
    (Typed.record { crate with extras? := extras?, layout := layout }).WellFormed := by
  have distinct : (Entries.keys crate.values).Nodup := by decide
  refine (Typed.everywhere_record_iff _).2 ⟨⟨distinct, extrasWellFormed⟩, ?_⟩
  simp only [crate, List.forall_mem_cons, List.not_mem_nil, false_implies, implies_true, and_true]
  exact ⟨(Typed.everywhere_of_parts_eq_nil rfl).2 trivial,
    (Typed.everywhere_of_parts_eq_nil rfl).2 trivial⟩

theorem registered_crate {extras? : Option (Entries Value)} {layout : List String}
    (layoutDistinct : layout.Nodup) :
    (Typed.record { crate with extras? := extras?, layout := layout }).Registered crates := by
  refine (Typed.everywhere_record_iff _).2 ⟨⟨rfl, layoutDistinct⟩, ?_⟩
  simp only [crate, List.forall_mem_cons, List.not_mem_nil, false_implies, implies_true, and_true]
  exact ⟨(Typed.everywhere_of_parts_eq_nil rfl).2 trivial,
    (Typed.everywhere_of_parts_eq_nil rfl).2 trivial⟩

/-- The crates are equal, and so are their untyped forms without the default count, though the
orders of keys differ. -/
theorem equality_laws_crate :
    (Typed.record crate == .record sameCrate) = true ∧
      (Typed.record sameCrate == .record crate) = true ∧
      ∃ entries others, crates.unstructure .stripped (.record crate) = .ok (.map entries) ∧
        crates.unstructure .stripped (.record sameCrate) = .ok (.map others) ∧
        (Value.map entries == .map others) = true ∧
        Entries.keys entries = ["width", "label", "height"] ∧
        Entries.keys others = ["label", "width", "height"] := by
  have hooks : ∀ name hook, crates.hook? name = some hook →
      ∃ hostHook : HostHook Paper, hook = hostHook.hook ∧ hostHook.WritesAlike := by
    intro name hook found
    have inHooks := Entries.mem_of_lookup found
    cases List.mem_singleton.1 inHooks
    exact ⟨labelHook, rfl, fun held other same => same⟩
  have wellFormed : (Typed.record crate).WellFormed := wellFormed_crate (by
    simp [Value.WellFormed, Value.EntriesWellFormed, Entries.keys])
  have otherWellFormed : (Typed.record sameCrate).WellFormed := wellFormed_crate (by
    simp [Value.WellFormed, Value.EntriesWellFormed, Entries.keys])
  have same : (Typed.record crate == .record sameCrate) = true := rfl
  obtain ⟨symmetric, _, _, respected⟩ := @Typed.equality_laws Bool _ Paper _ _
  refine ⟨same, symmetric _ _ wellFormed same, _, _, rfl, rfl, ?_, rfl, rfl⟩
  exact (respected crates hooks _ _ wellFormed otherWellFormed (registered_crate (by decide))
    (registered_crate (by decide)) same .stripped).2 _ _ rfl rfl

end Sample

end Recast
