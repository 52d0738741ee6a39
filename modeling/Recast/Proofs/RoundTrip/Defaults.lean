import Recast.Proofs.RoundTrip.Normalization
import Recast.Proofs.RoundTrip.Typed

/-!
# Values that equal a declared default

A declared default was read from its declared form, so it can be written and read again.  Equality
is coarser than sameness: mappings and kept entries are equal in any order, and so are equal numbers
that are not kept alike.  What equals a default can be written and read again all the same: nothing
that is ambiguous when it is written hides behind equality, and what comes back equals the default.
-/

namespace Recast

variable {Payload : Type} [BEq Payload]

/-- A lawful hook makes an equal payload of what it writes for a payload of its own. -/
theorem Hook.Lawful.restoresAlike {hook : Hook Payload} (lawful : hook.Lawful)
    (wellTyped : hook.WellTyped) :
    hook.RestoresAlike EqualPayload := by
  intro raw payload _ structured
  obtain ⟨written, unstructured⟩ :=
    Option.isSome_iff_exists.1 (wellTyped.ownKind raw payload structured)
  obtain ⟨notNull, again, restored, same⟩ := lawful payload written unstructured
  exact ⟨written, again, unstructured, notNull, restored, same⟩

/-- Equal values are both missing or both not. -/
theorem Typed.isMissing_eq_of_equal {left right : Typed Payload}
    (same : left.equal right = true) :
    right.isMissing = left.isMissing := by
  cases left with
  | raw value =>
      cases right with
      | raw other =>
          cases value <;> cases other <;>
            first
              | rfl
              | contradiction
      | _ => contradiction
  | record held =>
      obtain ⟨recordType, values, extras?, layout⟩ := held
      cases right <;>
        first
          | rfl
          | contradiction
  | _ =>
      cases right <;>
        first
          | rfl
          | contradiction

theorem Typed.eq_missing_of_equal {value : Typed Payload} (same : value.equal .missing = true) :
    value = .missing := by
  cases value with
  | missing => rfl
  | record held =>
      obtain ⟨_, _, _, _⟩ := held
      contradiction
  | _ => contradiction

omit [BEq Payload] in
/-- Kept entries that equal undeclared ones are undeclared. -/
theorem RecordType.Undeclared.of_equal {recordType : RecordType (Typed Payload)}
    {left right : Entries Value} (undeclared : recordType.Undeclared left)
    (distinct : (Entries.keys left).Nodup)
    (same : (Value.map left).equal (.map right) = true) :
    recordType.Undeclared right := by
  have agree := (Value.equal_map_iff left right).1 same
  exact fun key member => undeclared key ((agree.keys_perm distinct).mem_iff.2 member)

/-- What equals a value that can be written and read again can be, too. -/
theorem Settled.of_equal {registry : Registry Payload} {like : Payload → Payload → Prop}
    (lawful : ∀ name hook, registry.hook? name = some hook → hook.Lawful)
    {type : TypeExpr} {original value : Typed Payload}
    (settled : Settled registry like type original) (wellFormed : original.WellFormed)
    (same : original.equal value = true) (regular : value.Regular)
    (owned : value.Owned registry) :
    Settled registry EqualPayload type value := by
  induction settled generalizing value with
  | missing inner =>
      cases value with
      | missing => exact .missing inner
      | _ => contradiction
  | optional present _ inductionHypothesis =>
      have valuePresent := (Typed.isMissing_eq_of_equal same).trans present
      exact .optional valuePresent (inductionHypothesis wellFormed same regular owned)
  | @sequence item items _ inductionHypothesis =>
      cases value with
      | sequence others =>
          rw [Typed.equal_sequence_iff] at same
          refine .sequence fun other otherMember => ?_
          obtain ⟨part, member, samePart⟩ := Entries.exists_of_forall₂ same otherMember
          exact inductionHypothesis part member (wellFormed.inside member) samePart
            (regular.inside otherMember) (owned.inside otherMember)
      | _ => simp [Typed.equal] at same
  | @set item items _ inductionHypothesis =>
      cases value with
      | set others =>
          rw [Typed.equal_set_iff] at same
          refine .set fun other otherMember => ?_
          obtain ⟨part, member, samePart⟩ := Entries.exists_of_forall₂ same otherMember
          exact inductionHypothesis part member (wellFormed.inside member) samePart
            (regular.inside otherMember) (owned.inside otherMember)
      | _ => simp [Typed.equal] at same
  | @mapping type entries _ inductionHypothesis =>
      cases value with
      | mapping others =>
          rw [Typed.equal_mapping_iff] at same
          refine .mapping fun other otherMember => ?_
          have reverse : Entries.Agree (fun second first => first.equal second = true) others
              entries := same.symm wellFormed.here fun _ _ _ sameValue => sameValue
          obtain ⟨part, found, samePart⟩ := reverse.2 other otherMember
          have member := Typed.mem_parts_mapping (Entries.mem_of_lookup found)
          have partMember := Typed.mem_parts_mapping otherMember
          exact inductionHypothesis _ (Entries.mem_of_lookup found) (wellFormed.inside member)
            samePart (regular.inside partMember) (owned.inside partMember)
      | _ => simp [Typed.equal] at same
  | @record name recordType valueOf extras? layout registered originalRegular undeclared fallback
      _ inductionHypothesis =>
      cases value with
      | record other =>
          obtain ⟨otherType, values, otherExtras?, otherLayout⟩ := other
          obtain ⟨sameName, sameValues, sameExtras⟩ := (Typed.equal_record_iff _ _).1 same
          have ofType : registry.record? otherType.name = some otherType := owned.here
          have typeName : otherType.name = name :=
            sameName.symm.trans (Registry.record?_eq_some registered).2
          rw [typeName, registered, Option.some.injEq] at ofType
          subst ofType
          have here := regular.here
          obtain ⟨otherOf, tabulated, _⟩ := here.filled
          change values = recordType.table otherOf at tabulated
          subst tabulated
          have distinct := here.wellDeclared.distinct
          have each : ∀ field ∈ recordType.fields,
              (valueOf field).equal (otherOf field) = true := by
            intro field member
            obtain ⟨held, found, sameField⟩ :=
              sameValues.2 _ (RecordType.mem_table.2 ⟨field, member, rfl⟩)
            rw [RecordType.lookup_table distinct otherOf member, Option.some.injEq] at found
            rw [found]
            exact sameField
          have extrasDistinct := ((Value.wellFormed_map_iff _).1 originalRegular.extrasWellFormed).1
          refine .record registered here
            (undeclared.of_equal extrasDistinct ((Typed.extrasEqual_iff _ _).1 sameExtras).2) ?_ ?_
          · intro field member optional missing
            have sameField := each field member
            rw [missing] at sameField
            exact fallback field member optional (Typed.eq_missing_of_equal sameField)
          · intro field member
            have originalMember := Typed.mem_parts_table valueOf extras? layout member
            have otherMember := Typed.mem_parts_table otherOf otherExtras? otherLayout member
            exact inductionHypothesis field member (wellFormed.inside originalMember)
              (each field member) (regular.inside otherMember) (owned.inside otherMember)
      | _ => simp [Typed.equal] at same
  | @custom name _ _ _ _ _ _ _ _ _ =>
      cases value with
      | custom otherName payload =>
          rw [Typed.equal, Bool.and_eq_true, beq_iff_eq] at same
          obtain ⟨rfl, _⟩ := same
          obtain ⟨hook, found, ofKind⟩ := owned.here
          obtain ⟨raw, written⟩ := Option.isSome_iff_exists.1 ofKind
          obtain ⟨notNull, again, read, sameAgain⟩ := lawful name hook found payload raw written
          exact .custom found written notNull read sameAgain
      | _ => simp [Typed.equal] at same
  | str text =>
      cases value with
      | str other => exact .str other
      | _ => contradiction
  | int number =>
      cases value with
      | int other => exact .int other
      | _ => contradiction
  | float number =>
      cases value with
      | float other => exact .float other
      | _ => contradiction
  | bool truth =>
      cases value with
      | bool other => exact .bool other
      | _ => contradiction
  | any raw =>
      cases value with
      | raw other => exact .any other
      | _ => contradiction

variable {alphabet : Text.Alphabet} {registry : Registry Payload}

/-- Declared defaults can be written and read again. -/
theorem Registry.Built.settled_default (built : registry.Built alphabet)
    (lawful : ∀ name hook, registry.hook? name = some hook → hook.Lawful) {name : String}
    {recordType : RecordType (Typed Payload)} (registered : registry.record? name = some recordType)
    {field : Field (Typed Payload)} (member : field ∈ recordType.fields)
    {default : FieldDefault (Typed Payload)} (declared : field.default? = some default) :
    Settled registry EqualPayload field.type default.typed ∧ default.typed.Regular := by
  have sound := built.coherent.soundIn registered
  obtain ⟨wellFormed, structures⟩ := sound.defaults field member default declared
  have restores : ∀ name hook, registry.hook? name = some hook →
      hook.RestoresAlike EqualPayload := fun name hook found =>
    (lawful name hook found).restoresAlike (built.wellTyped found)
  exact ⟨(structures.settled_of_restoresAlike built.coherent restores wellFormed).1,
    (structures.admits_and_regular built.coherent wellFormed).2⟩

variable [PartialEquivBEq Payload]

/-- A settled value without NaN comes back as an equal one. -/
theorem Settled.exists_equal {type : TypeExpr} {value : Typed Payload}
    (settled : Settled registry EqualPayload type value) (regular : value.Regular)
    (noNaN : value.NaNFree) :
    ∃ raw again, registry.unstructure .written value = .ok raw ∧
      registry.structureAs raw type = .ok again ∧ value.equal again = true := by
  obtain ⟨raw, again, returned⟩ := settled.returns (setsStayDistinct_of_nanFree regular noNaN)
  exact ⟨raw, again, returned.written, returned.read, returned.reread.equal regular noNaN⟩

/-- A settled value without NaN equals itself, whatever payloads are in it. -/
theorem Settled.equal_self {type : TypeExpr} {value : Typed Payload}
    (settled : Settled registry EqualPayload type value) (regular : value.Regular)
    (noNaN : value.NaNFree) :
    value.equal value = true := by
  obtain ⟨_, _, _, _, same⟩ := settled.exists_equal regular noNaN
  exact Typed.equal_trans same (Typed.equal_symm regular.wellFormed same)

end Recast
