import Recast.Proofs.RoundTrip.Yielding

/-!
# Values that survive being written

A value survives if it can be read again from what is written with all fields and from what is
written without those that hold their default, and if both are read as equal values.  A collection
survives because its parts do: in a set, items that become equal by being read do so in both ways.
A record also needs that what steps in for a field equals itself, and equals what the field would
have been read as.
-/

namespace Recast

variable {Payload : Type} [BEq Payload]

/-! ## Collections -/

/-- Written in both ways, the value can be read again, and what is read is equal. -/
structure Survives (registry : Registry Payload) (type : TypeExpr) (value : Typed Payload) :
    Prop where
  rereads : ∀ defaults, registry.Rereads defaults type value
  same : (registry.rereadOf .written type value).equal
    (registry.rereadOf .stripped type value) = true

namespace Survives

variable {registry : Registry Payload} {type item : TypeExpr} {value : Typed Payload}

theorem of_yields {raw : DefaultFields → Value} {again : DefaultFields → Typed Payload}
    (yields : ∀ defaults, Yields registry defaults type value (raw defaults) (again defaults))
    (same : (again .written).equal (again .stripped) = true) :
    Survives registry type value := by
  have sameAgain := fun defaults =>
    (Registry.rereadOf_eq (yields defaults).written (yields defaults).read).2
  refine ⟨fun defaults => (yields defaults).rereads, ?_⟩
  rw [sameAgain, sameAgain]
  exact same

/-- A value that comes back as another that equals itself, whichever way it is written. -/
theorem of_same (raw : Value) (again : Typed Payload)
    (yields : ∀ defaults, Yields registry defaults type value raw again)
    (same : again.equal again = true) :
    Survives registry type value :=
  of_yields yields same

theorem optional (present : value.isMissing = false) (survives : Survives registry item value) :
    Survives registry (.optional item) value := by
  have sameAgain := fun defaults => ((survives.rereads defaults).optional present).1
  refine ⟨fun defaults => ((survives.rereads defaults).optional present).2, ?_⟩
  rw [sameAgain, sameAgain]
  exact survives.same

variable {items : List (Typed Payload)}

theorem sequence (parts : ∀ part ∈ items, Survives registry item part) :
    Survives registry (.sequence item) (.sequence items) := by
  refine of_yields
    (fun defaults => .sequence fun part member => (parts part member).rereads defaults) ?_
  rw [Typed.equal_sequence_iff, List.forall₂_map_left_iff, List.forall₂_map_right_iff,
    List.forall₂_same]
  exact fun part member => (parts part member).same

theorem mapping {entries : Entries (Typed Payload)} (distinct : (Entries.keys entries).Nodup)
    (parts : ∀ entry ∈ entries, Survives registry type entry.2) :
    Survives registry (.mapping .str type) (.mapping entries) := by
  refine of_yields
    (fun defaults => .mapping distinct fun entry member => (parts entry member).rereads defaults) ?_
  have agree : Entries.Agree (fun first second => (registry.rereadOf .written type first).equal
      (registry.rereadOf .stripped type second) = true) entries entries :=
    .refl distinct fun entry member => (parts entry member).same
  exact (Typed.equal_mapping_iff _ _).2
    ((Entries.Agree.mapValues_iff fun _ _ _ => Iff.rfl).2 agree)

variable [PartialEquivBEq Payload]

/-- Items that become equal when they come back do so in both ways, so the same ones are kept. -/
theorem set (coherent : registry.Coherent) (parts : ∀ part ∈ items, Survives registry item part) :
    Survives registry (.set item) (.set items) := by
  refine of_yields
    (fun defaults => .set fun part member => (parts part member).rereads defaults) ?_
  rw [Typed.equal_set_iff]
  apply Typed.forall₂_keepDistinct
  · rw [List.forall_mem_map]
    exact fun part member => ((parts part member).rereads .written).wellFormed_again coherent
  · rw [List.forall₂_map_left_iff, List.forall₂_map_right_iff, List.forall₂_same]
    exact fun part member => (parts part member).same

end Survives

/-! ## Records -/

/-- What a field takes in the two ways is equal if this holds of what steps in for it. -/
theorem Field.takenAgain_equal [PartialEquivBEq Payload] {registry : Registry Payload}
    {field : Field (Typed Payload)} {value : Typed Payload}
    (survives : Survives registry field.type value)
    (gap : field.type.isOptional = true → value.isMissing = true → ∀ fallback,
      field.fallback? = some fallback → fallback.equal fallback = true)
    (leftOut : ∀ default, field.default? = some default → default.typed.equal value = true →
      (registry.rereadOf .written field.type value).equal default.typed = true) :
    (field.takenAgain registry .written value).equal
      (field.takenAgain registry .stripped value) = true := by
  cases missing : field.type.isOptional && value.isMissing with
  | true =>
      obtain ⟨optional, isMissing⟩ := Bool.and_eq_true_iff.1 missing
      have isGap : ∀ defaults, field.isGap defaults value = true := fun defaults => by
        rw [Field.isGap, missing, Bool.or_true]
      obtain ⟨fallback, steppedIn⟩ := Field.exists_fallback_of_isGap (isGap .written)
      rw [takenAgain, takenAgain, if_pos (isGap .written), if_pos (isGap .stripped), steppedIn]
      exact gap optional isMissing fallback steppedIn
  | false =>
      have notGap : field.isGap .written value = false := by
        rw [Field.isGap, missing, Field.strips_written, Bool.or_false]
      rw [takenAgain, takenAgain, notGap, if_neg Bool.false_ne_true, Field.isGap, missing,
        Bool.or_false]
      split
      · next strips =>
          obtain ⟨_, isDefault⟩ := (field.strips_iff _ _).1 strips
          obtain ⟨default, declared, same⟩ := (field.isDefault_iff value).1 isDefault
          have steppedIn : field.fallback? = some default.typed :=
            (field.fallback?_eq_some_iff _).2 (.inl ⟨default, declared, rfl⟩)
          rw [steppedIn]
          exact leftOut default declared same
      · exact survives.same

namespace Survives

variable {registry : Registry Payload}

/-- A record survives if what its fields take in the two ways is equal. -/
theorem record {name : String} {recordType : RecordType (Typed Payload)}
    {valueOf : Field (Typed Payload) → Typed Payload} {extras? : Option (Entries Value)}
    {layout : List String} (registered : registry.record? name = some recordType)
    (regular : Record.Regular ⟨recordType, recordType.table valueOf, extras?, layout⟩)
    (noNaN : (Value.map (extras?.getD [])).NaNFree)
    (fields : ∀ field ∈ recordType.fields, Survives registry field.type (valueOf field))
    (taken : ∀ field ∈ recordType.fields,
      (field.takenAgain registry .written (valueOf field)).equal
        (field.takenAgain registry .stripped (valueOf field)) = true) :
    Survives registry (.record name)
      (.record ⟨recordType, recordType.table valueOf, extras?, layout⟩) := by
  have distinct : recordType.DistinctFields := regular.wellDeclared.distinct
  obtain ⟨extrasDistinct, extrasWellFormed⟩ :=
    (Value.wellFormed_map_iff (extras?.getD [])).1 regular.extrasWellFormed
  have outputsDistinct : ∀ defaults, (Entries.keys
      (recordType.outputOf registry defaults valueOf (extras?.getD []) layout)).Nodup :=
    fun defaults => RecordType.nodup_keys_output extrasDistinct regular.layoutDistinct
  have undeclaredKept : ∀ defaults key, recordType.declares key = false →
      (recordType.outputOf registry defaults valueOf (extras?.getD []) layout).lookup key =
        (extras?.getD []).lookup key :=
    fun defaults key => RecordType.lookup_output_of_not_declared extrasDistinct
  have yields := fun defaults =>
    Yields.record registered regular fun field member => (fields field member).rereads defaults
  refine of_yields yields ((Typed.equal_record_iff _ _).2 ⟨rfl, ?_, ?_⟩)
  · exact Entries.agree_tabulate distinct taken
  · apply RecordType.extrasEqual_reading _ _ (outputsDistinct _) (outputsDistinct _)
    · intro key notDeclared
      rw [undeclaredKept _ key notDeclared, undeclaredKept _ key notDeclared]
    · intro key value notDeclared found
      rw [undeclaredKept _ key notDeclared] at found
      have member := Entries.mem_of_lookup found
      exact (Value.equal_self_iff (extrasWellFormed _ member)).2
        ((Value.nanFree_map_iff _).1 noNaN _ member)

end Survives

end Recast
