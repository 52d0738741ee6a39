import Recast.Proofs.RoundTrip.Typed
import Recast.Proofs.RoundTrip.Yielding

/-!
# Every admitted value is read again

A value that a type admits can be written and read again as the type, with all fields written or
without those that hold their default.  Nothing is asked of it but that its records and custom
values belong to the registry: it may hold NaN, and what comes back may be another value.
-/

namespace Recast

variable {Payload : Type} [BEq Payload] {alphabet : Text.Alphabet} {registry : Registry Payload}

/-- A custom value is read again as one with an equal payload, whichever fields are written. -/
theorem Yields.custom (built : registry.Built alphabet)
    (lawful : ∀ name hook, registry.hook? name = some hook → hook.Lawful) {name : String}
    {payload : Payload} (owned : (Typed.custom name payload).OwnedHere registry) :
    ∃ raw again, (again == payload) = true ∧ ∀ defaults,
      Yields registry defaults (.custom name) (.custom name payload) raw (.custom name again) := by
  obtain ⟨hook, found, ofKind⟩ := owned
  obtain ⟨raw, written⟩ := Option.isSome_iff_exists.1 ofKind
  obtain ⟨notNull, again, read, same⟩ := lawful name hook found payload raw written
  have wellFormed : raw.WellFormed := (built.wellTyped found).wellFormed payload raw written
  refine ⟨raw, again, same, fun defaults => ⟨?_, wellFormed, notNull, ?_, rfl, nofun⟩⟩
  · rw [Registry.unstructure, Registry.unstructureCustom, found]
    simp only [written]
  · exact (Registry.structureAs_custom_eq_ok_iff registry name raw _).2
      ⟨hook, again, found, read, rfl⟩

/-- Every regular value of registered types that conforms to a type is written and read again. -/
theorem rereads_of_admits (built : registry.Built alphabet)
    (lawful : ∀ name hook, registry.hook? name = some hook → hook.Lawful)
    (defaults : DefaultFields) {type : TypeExpr} {value : Typed Payload}
    (textKeyed : type.TextKeyed) (admitted : type.admits value = true) (regular : value.Regular)
    (owned : value.Owned registry) :
    registry.Rereads defaults type value := by
  induction type, value using TypeExpr.inductionWithParts Typed.partsInduction with
  | optional inner value inductionHypothesis =>
      cases missing : value.isMissing with
      | true => exact (Yields.missing inner missing).rereads
      | false =>
          refine ((inductionHypothesis textKeyed ?_ regular owned).optional missing).2
          refine ((TypeExpr.admits_optional_iff inner value).1 admitted).resolve_left ?_
          rintro rfl
          contradiction
  | scalar kind value =>
      obtain ⟨raw, yields⟩ := Yields.scalar admitted
      exact (yields defaults).rereads
  | any value =>
      obtain ⟨raw, rfl⟩ := (TypeExpr.admits_any_iff value).1 admitted
      exact (Yields.any regular.here).rereads
  | sequence item value inductionHypothesis =>
      obtain ⟨items, rfl, each⟩ := (TypeExpr.admits_sequence_iff item value).1 admitted
      refine (Yields.sequence fun part member => ?_).rereads
      exact inductionHypothesis part member item textKeyed (each part member)
        (regular.inside member) (owned.inside member)
  | set item value inductionHypothesis =>
      obtain ⟨items, rfl, each, _⟩ := (TypeExpr.admits_set_iff item value).1 admitted
      refine (Yields.set fun part member => ?_).rereads
      exact inductionHypothesis part member item textKeyed (each part member)
        (regular.inside member) (owned.inside member)
  | mapping key type value inductionHypothesis =>
      obtain ⟨entries, rfl, each⟩ := (TypeExpr.admits_mapping_iff key type value).1 admitted
      obtain ⟨rfl, valueKeyed⟩ := textKeyed
      refine (Yields.mapping regular.here fun entry member => ?_).rereads
      have partMember := Typed.mem_parts_mapping member
      exact inductionHypothesis entry.2 partMember type valueKeyed (each entry member)
        (regular.inside partMember) (owned.inside partMember)
  | record name value inductionHypothesis =>
      obtain ⟨recordType, valueOf, extras?, layout, rfl, registered, each⟩ :=
        Typed.exists_table_of_admits admitted regular owned
      refine (Yields.record registered regular.here fun field member => ?_).rereads
      obtain ⟨partMember, valueKeyed, valueAdmitted⟩ := each field member
      exact inductionHypothesis (valueOf field) partMember field.type valueKeyed valueAdmitted
        (regular.inside partMember) (owned.inside partMember)
  | custom name value =>
      obtain ⟨payload, rfl⟩ := (TypeExpr.admits_custom_iff name value).1 admitted
      obtain ⟨raw, again, _, yields⟩ := Yields.custom built lawful owned.here
      exact (yields defaults).rereads

end Recast
