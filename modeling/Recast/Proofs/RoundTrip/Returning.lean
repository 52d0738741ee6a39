import Recast.Proofs.RoundTrip.Settled

/-!
# Settled values return

Every settled value is written, and what is written is read again.  The induction is over the way
in which the value is settled: a container returns because its parts do, and a record because
every field finds what was written for it, or was written as `null` and is filled with the missing
value that it had.
-/

namespace Recast

variable {Payload : Type} [BEq Payload] {registry : Registry Payload}
  {like : Payload → Payload → Prop}

namespace Registry

/-- What a value is read as again after it was written, if this succeeds. -/
def againOf (registry : Registry Payload) (type : TypeExpr) (value : Typed Payload) :
    Typed Payload :=
  Outcome.value (registry.structureAs (registry.rawOf value) type)

end Registry

/-! ## Containers -/

namespace Returns

variable {type : TypeExpr} {value : Typed Payload}

/-- A value that returns in some way returns as what the functions yield. -/
theorem of_exists (returns : ∃ raw again, Returns registry like type value raw again) :
    Returns registry like type value (registry.rawOf value) (registry.againOf type value) := by
  obtain ⟨raw, again, returned⟩ := returns
  have sameRaw := Registry.rawOf_eq returned.written
  have sameAgain : registry.againOf type value = again := by
    rw [Registry.againOf, sameRaw, returned.read, Outcome.value_ok]
  rw [sameRaw, sameAgain]
  exact returned

variable {item : TypeExpr} {items : List (Typed Payload)}

/-- Items that return are written the same again. -/
theorem rewritten_map
    (each : ∀ part ∈ items,
      Returns registry like item part (registry.rawOf part) (registry.againOf item part))
    (same : ∀ payload other, like payload other → other = payload) :
    (∀ part ∈ items.map (registry.againOf item),
        registry.unstructure .written part = .ok (registry.rawOf part)) ∧
      (items.map (registry.againOf item)).map registry.rawOf = items.map registry.rawOf := by
  have rewritten : ∀ part ∈ items,
      registry.unstructure .written (registry.againOf item part) = .ok (registry.rawOf part) :=
    fun part member => (each part member).rewritten same
  constructor
  · rw [List.forall_mem_map]
    intro part member
    rw [Registry.rawOf_eq (rewritten part member)]
    exact rewritten part member
  · rw [List.map_map]
    exact List.map_congr_left fun part member => Registry.rawOf_eq (rewritten part member)

theorem sequence (each : ∀ part ∈ items, ∃ raw again, Returns registry like item part raw again) :
    ∃ raw again, Returns registry like (.sequence item) (.sequence items) raw again := by
  have parts := fun part member => of_exists (each part member)
  refine ⟨.array (items.map registry.rawOf), .sequence (items.map (registry.againOf item)),
    ⟨?_, rfl, ?_, ?_, ?_⟩⟩
  · exact Registry.unstructure_sequence_eq_ok fun part member => (parts part member).written
  · exact Registry.structureAs_sequence_map fun part member => (parts part member).read
  · exact .sequence _ fun part member => (parts part member).reread
  · intro same
    obtain ⟨written, sameRaws⟩ := rewritten_map parts same
    rw [Registry.unstructure_sequence_eq_ok written, sameRaws]

theorem set (each : ∀ part ∈ items, ∃ raw again, Returns registry like item part raw again)
    (stayDistinct : SetsStayDistinct like (.set items)) :
    ∃ raw again, Returns registry like (.set item) (.set items) raw again := by
  have parts := fun part member => of_exists (each part member)
  have distinct := stayDistinct items .self (registry.againOf item)
    fun part member => (parts part member).reread
  refine ⟨.array (items.map registry.rawOf), .set (items.map (registry.againOf item)),
    ⟨?_, rfl, ?_, ?_, ?_⟩⟩
  · exact Registry.unstructure_set_eq_ok fun part member => (parts part member).written
  · rw [Registry.structureAs_set_map fun part member => (parts part member).read,
      Typed.keepDistinct_eq_self distinct]
  · exact .set _ fun part member => (parts part member).reread
  · intro same
    obtain ⟨written, sameRaws⟩ := rewritten_map parts same
    rw [Registry.unstructure_set_eq_ok written, sameRaws]

theorem mapping {entries : Entries (Typed Payload)}
    (each : ∀ entry ∈ entries, ∃ raw again, Returns registry like type entry.2 raw again) :
    ∃ raw again, Returns registry like (.mapping .str type) (.mapping entries) raw again := by
  have parts := fun entry member => of_exists (each entry member)
  refine ⟨.map (Entries.mapValues registry.rawOf entries),
    .mapping (Entries.mapValues (registry.againOf type) entries), ⟨?_, rfl, ?_, ?_, ?_⟩⟩
  · exact Registry.unstructure_mapping_eq_ok fun entry member => (parts entry member).written
  · exact Registry.structureAs_mapping_mapValues fun entry member => (parts entry member).read
  · exact .mapping _ fun entry member => (parts entry member).reread
  · intro same
    have rewritten : ∀ entry ∈ entries, registry.unstructure .written
        (registry.againOf type entry.2) = .ok (registry.rawOf entry.2) :=
      fun entry member => (parts entry member).rewritten same
    have written : ∀ entry ∈ Entries.mapValues (registry.againOf type) entries,
        registry.unstructure .written entry.2 = .ok (registry.rawOf entry.2) := by
      rw [Entries.mapValues, List.forall_mem_map]
      intro entry member
      rw [Registry.rawOf_eq (rewritten entry member)]
      exact rewritten entry member
    rw [Registry.unstructure_mapping_eq_ok written]
    simp only [Entries.mapValues, List.map_map]
    refine congrArg (fun raws => Except.ok (Value.map raws)) ?_
    exact List.map_congr_left fun entry member => by
      rw [Function.comp_apply, Registry.rawOf_eq (rewritten entry member)]

end Returns

/-! ## Records -/

namespace RecordType

variable {recordType : RecordType (Typed Payload)} {extras? : Option (Entries Value)}

omit [BEq Payload] in
/-- Reading what a record writes finds the entries that the record keeps, in the order of its
layout. -/
theorem reading_written (undeclared : recordType.Undeclared (extras?.getD []))
    (extrasIfOpen : extras?.isSome = recordType.isOpen)
    (again : Field (Typed Payload) → Typed Payload) (rawOf : Field (Typed Payload) → Value)
    (layout : List String) :
    recordType.reading again
        (Entries.arrange (recordType.overlay (extras?.getD []) rawOf) layout) =
      ⟨recordType, recordType.table again, extras?.map (Entries.arrange · layout),
        if recordType.isOpen then
          Entries.keys (Entries.arrange (recordType.overlay (extras?.getD []) rawOf) layout)
        else []⟩ := by
  rw [reading]
  congr 1
  cases kept : extras? with
  | none =>
      rw [kept] at extrasIfOpen
      rw [← extrasIfOpen]
      rfl
  | some extras =>
      rw [kept] at extrasIfOpen undeclared
      rw [← extrasIfOpen, if_pos Option.isSome_some, Option.map_some,
        Entries.filter_arrange fun key => !recordType.declares key,
        filter_overlay undeclared rawOf]
      rfl

omit [BEq Payload] in
/-- What a record writes after it was read from what it wrote is what it wrote. -/
theorem written_again (distinct : recordType.DistinctFields)
    (extrasDistinct : (Entries.keys (extras?.getD [])).Nodup)
    (undeclared : recordType.Undeclared (extras?.getD []))
    (extrasIfOpen : extras?.isSome = recordType.isOpen)
    (rawOf : Field (Typed Payload) → Value) {layout : List String}
    (layoutDistinct : layout.Nodup) (layoutIfOpen : recordType.isOpen = false → layout = []) :
    Entries.arrange
        (recordType.overlay ((extras?.map (Entries.arrange · layout)).getD []) rawOf)
        (if recordType.isOpen then
          Entries.keys (Entries.arrange (recordType.overlay (extras?.getD []) rawOf) layout)
        else []) =
      Entries.arrange (recordType.overlay (extras?.getD []) rawOf) layout := by
  cases kept : extras? with
  | none =>
      rw [kept] at extrasIfOpen
      rw [layoutIfOpen extrasIfOpen.symm, ← extrasIfOpen]
      rfl
  | some extras =>
      rw [kept] at extrasIfOpen undeclared extrasDistinct
      rw [← extrasIfOpen, if_pos Option.isSome_some]
      exact arrange_overlay_arrange distinct extrasDistinct undeclared rawOf layoutDistinct

end RecordType

namespace Returns

variable {value : Typed Payload}

omit [BEq Payload] in
/-- A `null` that is written for an accepted value is not reported when it is read. -/
theorem reportsNull_eq_false {field : Field (Typed Payload)} {raw : Value}
    (validated : field.validate value = .ok ()) (isNull_eq : raw.isNull = value.isMissing) :
    field.reportsNull raw = false := by
  rw [Field.reportsNull, Bool.and_eq_false_imp]
  intro reported
  rw [Bool.and_eq_true, isNull_eq] at reported
  rw [Field.validate] at validated
  cases attached : field.validator? with
  | none => rfl
  | some validator =>
      rw [attached] at validated
      have present := ((validator.check_eq_ok_iff _ value).1 validated).1
      rw [present] at reported
      exact absurd reported.1 Bool.false_ne_true

/-- A field takes what its value comes back as from entries that hold what was written for it. -/
theorem takes {field : Field (Typed Payload)} {raw : Value} {again : Typed Payload}
    (returns : Returns registry like field.type value raw again)
    (settled : Settled registry like field.type value)
    (validated : field.validate value = .ok ())
    (fallback : field.type.isOptional = true → value = .missing →
      field.fallback? = some .missing)
    {entries : Entries Value} (found : entries.lookup field.name = some raw) :
    registry.Takes field entries again := by
  have input := Field.input?_of_lookup found
  split at input
  · next skipped =>
      rw [Bool.and_eq_true, returns.isNull_eq] at skipped
      have missing := settled.eq_missing skipped.2 skipped.1
      have sameAgain : again = .missing := by
        have reread := returns.reread
        rw [missing] at reread
        cases reread
        rfl
      rw [sameAgain]
      exact .filled input (fallback skipped.2 missing)
  · refine .given input (reportsNull_eq_false validated returns.isNull_eq) returns.read ?_
    rw [returns.reread.validate_eq]
    exact validated

theorem record {name : String} {recordType : RecordType (Typed Payload)}
    {valueOf : Field (Typed Payload) → Typed Payload} {extras? : Option (Entries Value)}
    {layout : List String} (registered : registry.record? name = some recordType)
    (regular : Record.Regular ⟨recordType, recordType.table valueOf, extras?, layout⟩)
    (undeclared : recordType.Undeclared (extras?.getD []))
    (fallback : ∀ field ∈ recordType.fields, field.type.isOptional = true →
      valueOf field = .missing → field.fallback? = some .missing)
    (settled : ∀ field ∈ recordType.fields, Settled registry like field.type (valueOf field))
    (each : ∀ field ∈ recordType.fields,
      ∃ raw again, Returns registry like field.type (valueOf field) raw again) :
    ∃ raw again, Returns registry like (.record name)
      (.record ⟨recordType, recordType.table valueOf, extras?, layout⟩) raw again := by
  have parts := fun field member => of_exists (each field member)
  let rawOf := fun field => registry.rawOf (valueOf field)
  let again := fun field : Field (Typed Payload) => registry.againOf field.type (valueOf field)
  let written := Entries.arrange (recordType.overlay (extras?.getD []) rawOf) layout
  have distinct : recordType.DistinctFields := regular.wellDeclared.distinct
  have extrasDistinct := ((Value.wellFormed_map_iff _).1 regular.extrasWellFormed).1
  have takesAgain : ∀ field ∈ recordType.fields, registry.Takes field written (again field) := by
    intro field member
    have held := RecordType.lookup_table distinct valueOf member
    apply (parts field member).takes (settled field member) (regular.accepts member held).1
      (fallback field member)
    rw [Entries.lookup_arrange, RecordType.lookup_overlay_field distinct undeclared rawOf member]
  have asRead := recordType.reading_written undeclared regular.extrasIfOpen again rawOf layout
  refine ⟨.map written, .record (recordType.reading again written), ⟨?_, rfl, ?_, ?_, ?_⟩⟩
  · exact Registry.unstructure_record_eq_ok distinct
      (fun field member => (parts field member).written) extrasDistinct undeclared
      regular.layoutDistinct
  · exact (Registry.structureAs_record_eq_ok_iff registry name _ _).2 ⟨recordType, _, registered,
      (Registry.structureWith_eq_ok_iff registry distinct _ _).2
        ⟨written, again, rfl, takesAgain, rfl⟩, rfl⟩
  · rw [asRead]
    exact .record valueOf again extras? layout _ fun field member => (parts field member).reread
  · intro same
    have undeclaredAgain :
        recordType.Undeclared ((extras?.map (Entries.arrange · layout)).getD []) := by
      cases extras? with
      | none => exact undeclared
      | some extras => exact undeclared.arrange layout
    have extrasDistinctAgain :
        (Entries.keys ((extras?.map (Entries.arrange · layout)).getD [])).Nodup := by
      cases extras? with
      | none => exact extrasDistinct
      | some extras => exact Entries.nodup_keys_arrange extrasDistinct regular.layoutDistinct
    have layoutAgainDistinct :
        (if recordType.isOpen then Entries.keys written else []).Nodup := by
      split
      · exact Entries.nodup_keys_arrange
          (RecordType.nodup_keys_overlay distinct extrasDistinct undeclared rawOf)
          regular.layoutDistinct
      · exact List.nodup_nil
    rw [asRead, Registry.unstructure_record_eq_ok distinct
      (fun field member => (parts field member).rewritten same) extrasDistinctAgain
        undeclaredAgain layoutAgainDistinct,
      RecordType.written_again distinct extrasDistinct undeclared regular.extrasIfOpen rawOf
        regular.layoutDistinct regular.layoutIfOpen]

end Returns

/-- Every settled value returns, if no two items of a set in it become equal by doing so. -/
theorem Settled.returns {type : TypeExpr} {value : Typed Payload}
    (settled : Settled registry like type value) (distinct : SetsStayDistinct like value) :
    ∃ raw again, Returns registry like type value raw again := by
  induction settled with
  | missing inner => exact ⟨.null, .missing, rfl, rfl, rfl, .missing, fun _ => rfl⟩
  | optional present _ inductionHypothesis =>
      obtain ⟨raw, again, returned⟩ := inductionHypothesis distinct
      have notNull : raw.isNull = false := returned.isNull_eq.trans present
      refine ⟨raw, again, returned.written, returned.isNull_eq, ?_, returned.reread,
        returned.rewritten⟩
      rw [Registry.structureAs_optional registry notNull]
      exact returned.read
  | str text => exact ⟨.string text, .str text, rfl, rfl, rfl, .str text, fun _ => rfl⟩
  | int number => exact ⟨.integer number, .int number, rfl, rfl, rfl, .int number, fun _ => rfl⟩
  | float number => exact ⟨.float number, .float number, rfl, rfl, rfl, .float number, fun _ => rfl⟩
  | bool truth => exact ⟨.bool truth, .bool truth, rfl, rfl, rfl, .bool truth, fun _ => rfl⟩
  | any value =>
      refine ⟨value, .raw value, rfl, rfl, ?_, .raw value, fun _ => rfl⟩
      cases value <;> rfl
  | sequence _ inductionHypothesis =>
      exact Returns.sequence fun part member =>
        inductionHypothesis part member (distinct.inside member)
  | set _ inductionHypothesis =>
      exact Returns.set (fun part member =>
        inductionHypothesis part member (distinct.inside member)) distinct
  | mapping _ inductionHypothesis =>
      exact Returns.mapping fun entry member =>
        inductionHypothesis entry member (distinct.inside (Typed.mem_parts_mapping member))
  | @record _ recordType valueOf _ _ registered regular undeclared fallback each
      inductionHypothesis =>
      refine Returns.record registered regular undeclared fallback each ?_
      intro field member
      exact inductionHypothesis field member
        (distinct.inside (Typed.mem_parts_table valueOf _ _ member))
  | @custom name hook payload again raw found written notNull read alike =>
      have unstructured : ∀ other, hook.unstructurePayload? other = some raw →
          registry.unstructure .written (.custom name other) = .ok raw := by
        intro other otherWritten
        rw [Registry.unstructure, Registry.unstructureCustom, found]
        simp only [otherWritten]
      refine ⟨raw, .custom name again, unstructured payload written, notNull, ?_,
        .custom name alike, ?_⟩
      · exact (Registry.structureAs_custom_eq_ok_iff registry name raw _).2
          ⟨hook, again, found, read, rfl⟩
      · intro same
        rw [same payload again alike]
        exact unstructured payload written

end Recast
