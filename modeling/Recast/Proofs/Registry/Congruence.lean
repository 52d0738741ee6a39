import Recast.Proofs.Number.Widening
import Recast.Proofs.Registry.Place
import Recast.Proofs.Registry.Soundness

/-!
# Equal values are structured as equal values

Equality of untyped values is by number and in any order of keys.  Structuring respects it: an
integer is widened to the number that equals it, from equal elements a set keeps the same ones, and
a key that is on one side is on the other.  Only a gap that is filled needs a condition.  Both
sides fill it with the same default, but a default that contains a NaN does not equal itself.
-/

namespace Recast

variable {Payload : Type} [BEq Payload]

/-- From equal values the hook makes equal payloads. -/
def Hook.RespectsEquality (hook : Hook Payload) : Prop :=
  ∀ raw other payload otherPayload, raw.WellFormed → other.WellFormed → (raw == other) = true →
    hook.structurePayload raw = .ok payload → hook.structurePayload other = .ok otherPayload →
    (payload == otherPayload) = true

omit [BEq Payload] in
/-- Equal values are both `null` or both something else. -/
theorem Value.isNull_eq_of_equal {left right : Value} (same : left.equal right = true) :
    left.isNull = right.isNull := by
  cases left <;> cases right <;> first | rfl | (simp [equal] at same)

/-! ## Inputs of fields -/

omit [BEq Payload] in
/-- From entries that agree a field takes inputs that are the same, or none from either. -/
theorem Field.input?_cases {field : Field (Typed Payload)} {same : Value → Value → Prop}
    {left right : Entries Value} (agree : Entries.Agree same left right)
    (distinct : (Entries.keys left).Nodup)
    (sameNull : ∀ raw other, same raw other → raw.isNull = other.isNull) :
    (field.input? left = none ∧ field.input? right = none) ∨
      ∃ raw other, field.input? left = some raw ∧ field.input? right = some other ∧
        same raw other := by
  rcases agree.lookup_cases distinct field.name with
    ⟨absent, otherAbsent⟩ | ⟨raw, other, found, otherFound, sameRaw⟩
  · rw [input?, absent, input?, otherAbsent]
    exact .inl ⟨rfl, rfl⟩
  · rw [input?_of_lookup found, input?_of_lookup otherFound, sameNull raw other sameRaw]
    split
    · exact .inl ⟨rfl, rfl⟩
    · exact .inr ⟨raw, other, rfl, rfl, sameRaw⟩

omit [BEq Payload] in
/-- Records that are read from equal maps keep equal entries. -/
theorem RecordType.extrasEqual_of_equal (recordType : RecordType (Typed Payload))
    (valueOf otherOf : Field (Typed Payload) → Typed Payload) {left right : Entries Value}
    (distinct : (Entries.keys left).Nodup)
    (agree : Entries.Agree (fun first second => first.equal second = true) left right) :
    Typed.extrasEqual (recordType.reading valueOf left).extras?
      (recordType.reading otherOf right).extras? = true := by
  rw [reading, reading]
  cases recordType.isOpen with
  | false => rfl
  | true =>
      exact (Value.equalEntries_iff _ _).2
        (agree.filter distinct fun key => !recordType.declares key)

namespace Registry

variable {registry : Registry Payload}

/-! ## Gaps -/

/-- Where the entries of a map leave a gap in a record, the default that fills it equals itself. -/
def FillsGapsHere (registry : Registry Payload) : TypeExpr → Value → Prop
  | .record name, .map entries =>
      ∀ recordType, registry.record? name = some recordType →
        ∀ field ∈ recordType.fields, field.input? entries = none →
          ∀ default, field.default? = some default → (default.typed == default.typed) = true
  | _, _ => True

/-- Every default that fills a gap in a record of the value, at any depth, equals itself. -/
def FillsGaps (registry : Registry Payload) (type : TypeExpr) (raw : Value) : Prop :=
  registry.AtPlaces registry.FillsGapsHere type raw

/-! ## Values of each type -/

variable [PartialEquivBEq Payload]

omit [PartialEquivBEq Payload] in
/-- The values that fill a field on both sides are equal. -/
theorem equal_of_filled {field : Field (Typed Payload)} {value other : Typed Payload}
    (filled : field.fallback? = some value) (otherFilled : field.fallback? = some other)
    (selfEqual : ∀ default, field.default? = some default →
      (default.typed == default.typed) = true) :
    value.equal other = true := by
  rw [filled] at otherFilled
  cases otherFilled
  rcases (field.fallback?_eq_some_iff value).1 filled with
    ⟨default, declared, rfl⟩ | ⟨_, _, rfl⟩
  · exact selfEqual default declared
  · rfl

omit [PartialEquivBEq Payload] in
theorem equal_map_of_equal {items others : List Value} {valueOf otherOf : Value → Typed Payload}
    (same : List.Forall₂ (fun part other => part.equal other = true) items others)
    (each : ∀ part ∈ items, ∀ other ∈ others, part.equal other = true →
      (valueOf part).equal (otherOf other) = true) :
    List.Forall₂ (fun first second => first.equal second = true) (items.map valueOf)
      (others.map otherOf) := by
  rw [List.forall₂_map_left_iff, List.forall₂_map_right_iff]
  exact (Entries.forall₂_mem same).imp fun part other ⟨member, otherMember, samePart⟩ =>
    each part member other otherMember samePart

/-- Of equal values, one denotes what equals the value that the other is structured as. -/
theorem Structures.equal_of_equal (coherent : registry.Coherent)
    (hooks : ∀ name hook, registry.hook? name = some hook → hook.RespectsEquality)
    {type : TypeExpr} {raw other : Value} {value otherValue : Typed Payload}
    (structures : registry.Structures type raw value)
    (otherOk : registry.structureAs other type = .ok otherValue)
    (wellFormed : raw.WellFormed) (otherWellFormed : other.WellFormed)
    (same : raw.equal other = true) (gaps : registry.FillsGaps type raw) :
    value.equal otherValue = true := by
  induction structures generalizing other otherValue with
  | missing inner =>
      cases other <;> first | (simp [Value.equal] at same; done) | skip
      cases otherOk
      rfl
  | @optional inner raw value present _ inductionHypothesis =>
      have otherPresent : other.isNull = false := by
        rw [← Value.isNull_eq_of_equal same, present]
      rw [structureAs_optional registry otherPresent] at otherOk
      exact inductionHypothesis otherOk wellFormed otherWellFormed same (gaps.optional present)
  | str text =>
      cases other <;> first | contradiction | skip
      cases otherOk
      exact same
  | int number =>
      cases other <;> first | contradiction | skip
      cases otherOk
      exact same
  | bool truth =>
      cases other <;> first | contradiction | skip
      cases otherOk
      exact same
  | float number =>
      cases other with
      | float otherNumber =>
          cases otherOk
          exact same
      | integer otherNumber =>
          cases otherOk
          exact Binary64.equal_symm (Binary64.ofInt_equal_of_toInt? (eq_of_beq same))
      | _ => contradiction
  | widened number =>
      cases other with
      | float otherNumber =>
          cases otherOk
          exact Binary64.ofInt_equal_of_toInt? (eq_of_beq same)
      | integer otherNumber =>
          cases otherOk
          rw [Value.equal, beq_iff_eq] at same
          subst same
          exact (Binary64.equal_self_iff _).2 (Binary64.isNaN_ofInt_toInt number)
      | _ => contradiction
  | any raw =>
      rw [structureAs_any] at otherOk
      cases otherOk
      exact same
  | @sequence item items valueOf _ inductionHypothesis =>
      obtain ⟨others, otherOf, rfl, each, rfl⟩ :=
        (structureAs_sequence_eq_ok_iff registry item other otherValue).1 otherOk
      rw [Value.wellFormed_array_iff] at wellFormed otherWellFormed
      rw [Value.equal, Value.equalItems_iff] at same
      rw [Typed.equal_sequence_iff]
      exact equal_map_of_equal same fun part member otherPart otherMember samePart =>
        inductionHypothesis part member (each otherPart otherMember) (wellFormed part member)
          (otherWellFormed otherPart otherMember) samePart (gaps.item member)
  | @set item items valueOf structuresEach inductionHypothesis =>
      obtain ⟨others, otherOf, rfl, each, rfl⟩ :=
        (structureAs_set_eq_ok_iff registry item other otherValue).1 otherOk
      rw [Value.wellFormed_array_iff] at wellFormed otherWellFormed
      rw [Value.equal, Value.equalItems_iff] at same
      have structuredWellFormed : ∀ part ∈ items.map valueOf, part.WellFormed :=
        List.forall_mem_map.2 fun part member =>
          ((structuresEach part member).regular coherent (wellFormed part member)).wellFormed
      rw [Typed.equal_set_iff]
      apply Typed.forall₂_keepDistinct structuredWellFormed
      exact equal_map_of_equal same fun part member otherPart otherMember samePart =>
        inductionHypothesis part member (each otherPart otherMember) (wellFormed part member)
          (otherWellFormed otherPart otherMember) samePart (gaps.element member)
  | @mapping type entries valueOf _ inductionHypothesis =>
      obtain ⟨others, otherOf, _, rfl, each, rfl⟩ :=
        (structureAs_mapping_eq_ok_iff registry .str type other otherValue).1 otherOk
      obtain ⟨distinct, eachWellFormed⟩ := (Value.wellFormed_map_iff entries).1 wellFormed
      obtain ⟨_, othersWellFormed⟩ := (Value.wellFormed_map_iff others).1 otherWellFormed
      rw [Value.equal_map_iff] at same
      rw [Typed.equal_mapping_iff]
      exact same.mapValues_of_same fun entry member otherEntry otherMember sameEntry =>
        inductionHypothesis entry member (each otherEntry otherMember)
          (eachWellFormed entry member) (othersWellFormed otherEntry otherMember) sameEntry
          (gaps.entry (Entries.lookup_of_mem distinct member))
  | @record name recordType entries valueOf registered given passed filled _ _ givenEqual _ =>
      have fieldsDistinct := (coherent.soundIn registered).distinct
      obtain ⟨otherType, otherRecord, otherRegistered, otherRead, rfl⟩ :=
        (structureAs_record_eq_ok_iff registry name other otherValue).1 otherOk
      rw [registered] at otherRegistered
      cases otherRegistered
      obtain ⟨others, otherOf, rfl, taken, rfl⟩ :=
        (structureWith_eq_ok_iff registry fieldsDistinct other otherRecord).1 otherRead
      obtain ⟨distinct, eachWellFormed⟩ := (Value.wellFormed_map_iff entries).1 wellFormed
      obtain ⟨_, othersWellFormed⟩ := (Value.wellFormed_map_iff others).1 otherWellFormed
      rw [Value.equal_map_iff] at same
      refine (Typed.equal_record_iff _ _).2 ⟨rfl, ?_,
        recordType.extrasEqual_of_equal valueOf otherOf distinct same⟩
      refine Entries.agree_tabulate fieldsDistinct fun field member => ?_
      rcases field.input?_cases same distinct fun _ _ => Value.isNull_eq_of_equal with
        ⟨absent, otherAbsent⟩ | ⟨raw, otherRaw, input, otherInput, sameRaw⟩
      · exact equal_of_filled (filled field member absent)
          ((taken field member).of_no_input otherAbsent)
          (gaps.here recordType registered field member absent)
      · have found := lookup_of_input? input
        have otherFound := lookup_of_input? otherInput
        exact givenEqual field member raw input ((taken field member).of_input otherInput).2.1
          (eachWellFormed _ (Entries.mem_of_lookup found))
          (othersWellFormed _ (Entries.mem_of_lookup otherFound)) sameRaw
          (gaps.field registered member found)
  | @custom name hook raw payload registered structured =>
      obtain ⟨otherHook, otherPayload, otherRegistered, otherStructured, rfl⟩ :=
        (structureAs_custom_eq_ok_iff registry name other otherValue).1 otherOk
      rw [registered] at otherRegistered
      cases otherRegistered
      rw [Typed.equal, Bool.and_eq_true, beq_iff_eq]
      exact ⟨rfl, hooks name hook registered raw other payload otherPayload wellFormed
        otherWellFormed same structured otherStructured⟩

end Registry

end Recast
