import Recast.Proofs.RoundTrip.Returning

/-!
# What is read again, whichever fields are written

A value can be written with all fields or without those that hold their default.  Either way what
is written may be read again as another value: a missing value is read as the default of its field,
an untyped `null` as the missing value, and items of a set that become equal by this are read as
one.  What is asked here of the value that comes back is only that it passes the validators that
the value passes.
-/

namespace Recast

variable {Payload : Type} [BEq Payload] {registry : Registry Payload}

/-! ## One way of writing -/

/-- The value is written as the raw value, which is read as `again`.  What comes back passes the
validators that the value passes. -/
structure Yields (registry : Registry Payload) (defaults : DefaultFields) (type : TypeExpr)
    (value : Typed Payload) (raw : Value) (again : Typed Payload) : Prop where
  written : registry.unstructure defaults value = .ok raw
  wellFormed : raw.WellFormed
  isNull_eq : raw.isNull = value.isMissing
  read : registry.structureAs raw type = .ok again
  isMissing_eq : again.isMissing = value.isMissing
  notEmptied : again.size? = some 0 → value.size? = some 0

namespace Registry

/-- What a value is written as in either way, if it can be written.  With all fields this is
`rawOf`. -/
def outputOf (registry : Registry Payload) (defaults : DefaultFields) (value : Typed Payload) :
    Value :=
  Outcome.value (registry.unstructure defaults value)

/-- What the output of a value is read as, if it can be read. -/
def rereadOf (registry : Registry Payload) (defaults : DefaultFields) (type : TypeExpr)
    (value : Typed Payload) : Typed Payload :=
  Outcome.value (registry.structureAs (registry.outputOf defaults value) type)

/-- The value can be written and read again as the type. -/
def Rereads (registry : Registry Payload) (defaults : DefaultFields) (type : TypeExpr)
    (value : Typed Payload) : Prop :=
  Yields registry defaults type value (registry.outputOf defaults value)
    (registry.rereadOf defaults type value)

theorem rereadOf_eq {defaults : DefaultFields} {type : TypeExpr} {value again : Typed Payload}
    {raw : Value} (written : registry.unstructure defaults value = .ok raw)
    (read : registry.structureAs raw type = .ok again) :
    registry.outputOf defaults value = raw ∧ registry.rereadOf defaults type value = again := by
  have sameOutput : registry.outputOf defaults value = raw := by
    rw [outputOf, written, Outcome.value_ok]
  refine ⟨sameOutput, ?_⟩
  rw [rereadOf, sameOutput, read, Outcome.value_ok]

end Registry

variable {defaults : DefaultFields} {type item : TypeExpr} {value again : Typed Payload}
  {raw : Value}

theorem Yields.rereads (yields : Yields registry defaults type value raw again) :
    registry.Rereads defaults type value := by
  obtain ⟨sameOutput, sameAgain⟩ := Registry.rereadOf_eq yields.written yields.read
  rw [Registry.Rereads, sameOutput, sameAgain]
  exact yields

theorem Yields.validated (yields : Yields registry defaults type value raw again)
    {field : Field (Typed Payload)} (validated : field.validate value = .ok ()) :
    field.validate again = .ok () := by
  rw [Field.validate] at validated ⊢
  cases attached : field.validator? with
  | none => rfl
  | some validator =>
      simp only [attached, Validator.check_eq_ok_iff] at validated ⊢
      exact ⟨yields.isMissing_eq.trans validated.1, fun nonEmpty empty =>
        validated.2 nonEmpty (yields.notEmptied empty)⟩

namespace Registry.Rereads

/-- What comes back has no key twice. -/
theorem wellFormed_again (rereads : registry.Rereads defaults type value)
    (coherent : registry.Coherent) :
    (registry.rereadOf defaults type value).WellFormed :=
  ((structures_of_ok coherent rereads.read).admits_and_regular coherent
    rereads.wellFormed).2.wellFormed

theorem optional (present : value.isMissing = false)
    (rereads : registry.Rereads defaults item value) :
    registry.rereadOf defaults (.optional item) value = registry.rereadOf defaults item value ∧
      registry.Rereads defaults (.optional item) value := by
  have notNull : (registry.outputOf defaults value).isNull = false :=
    rereads.isNull_eq.trans present
  have sameAgain : registry.rereadOf defaults (.optional item) value =
      registry.rereadOf defaults item value := by
    rw [rereadOf, structureAs_optional registry notNull, rereadOf]
  refine ⟨sameAgain, ?_⟩
  rw [Rereads, sameAgain]
  refine { rereads with read := ?_ }
  rw [structureAs_optional registry notNull]
  exact rereads.read

end Registry.Rereads

namespace Yields

/-- A value that counts as missing is written as `null`, which an optional type reads as the missing
value. -/
theorem missing (inner : TypeExpr) (missing : value.isMissing = true) :
    Yields registry defaults (.optional inner) value .null .missing where
  written := by
    cases value with
    | missing => rfl
    | raw kept =>
        cases kept with
        | null => rfl
        | _ => contradiction
    | _ => contradiction
  wellFormed := trivial
  isNull_eq := missing.symm
  read := rfl
  isMissing_eq := missing.symm
  notEmptied := nofun

theorem scalar {kind : Scalar} (admitted : (TypeExpr.scalar kind).admits value = true) :
    ∃ raw, ∀ defaults, Yields registry defaults (.scalar kind) value raw value := by
  cases kind <;> cases value <;> try contradiction
  all_goals exact ⟨_, fun _ => ⟨rfl, trivial, rfl, rfl, rfl, id⟩⟩

theorem any {kept : Value} (wellFormed : kept.WellFormed) :
    Yields registry defaults .any (.raw kept) kept (.raw kept) :=
  ⟨rfl, wellFormed, rfl, registry.structureAs_any kept, rfl, id⟩

variable {items : List (Typed Payload)}

theorem sequence (parts : ∀ part ∈ items, registry.Rereads defaults item part) :
    Yields registry defaults (.sequence item) (.sequence items)
      (.array (items.map (registry.outputOf defaults)))
      (.sequence (items.map (registry.rereadOf defaults item))) where
  written := Registry.unstructure_sequence_eq_ok fun part member => (parts part member).written
  wellFormed := (Value.wellFormed_array_iff _).2
    (List.forall_mem_map.2 fun part member => (parts part member).wellFormed)
  isNull_eq := rfl
  read := Registry.structureAs_sequence_map fun part member => (parts part member).read
  isMissing_eq := rfl
  notEmptied := by simp [Typed.size?]

theorem set (parts : ∀ part ∈ items, registry.Rereads defaults item part) :
    Yields registry defaults (.set item) (.set items)
      (.array (items.map (registry.outputOf defaults)))
      (.set (Typed.keepDistinct [] (items.map (registry.rereadOf defaults item)))) where
  written := Registry.unstructure_set_eq_ok fun part member => (parts part member).written
  wellFormed := (Value.wellFormed_array_iff _).2
    (List.forall_mem_map.2 fun part member => (parts part member).wellFormed)
  isNull_eq := rfl
  read := Registry.structureAs_set_map fun part member => (parts part member).read
  isMissing_eq := rfl
  notEmptied empty := by
    have noItem :
        (Typed.keepDistinct [] (items.map (registry.rereadOf defaults item))).length = 0 :=
      Option.some.inj empty
    rw [Typed.length_keepDistinct_eq_zero_iff, List.map_eq_nil_iff] at noItem
    rw [noItem]
    rfl

theorem mapping {entries : Entries (Typed Payload)} (distinct : (Entries.keys entries).Nodup)
    (parts : ∀ entry ∈ entries, registry.Rereads defaults type entry.2) :
    Yields registry defaults (.mapping .str type) (.mapping entries)
      (.map (Entries.mapValues (registry.outputOf defaults) entries))
      (.mapping (Entries.mapValues (registry.rereadOf defaults type) entries)) where
  written := Registry.unstructure_mapping_eq_ok fun entry member => (parts entry member).written
  wellFormed := by
    refine (Value.wellFormed_map_iff _).2 ⟨?_, ?_⟩
    · rw [Entries.keys_mapValues]
      exact distinct
    · rw [Entries.mapValues, List.forall_mem_map]
      exact fun entry member => (parts entry member).wellFormed
  isNull_eq := rfl
  read := Registry.structureAs_mapping_mapValues fun entry member => (parts entry member).read
  isMissing_eq := rfl
  notEmptied := by simp [Typed.size?, Entries.mapValues]

end Yields

/-! ## Fields of records -/

namespace Field

/-- Whether a field finds no entry when it is read again: because it was left out, or because it is
optional and `null` was written for it. -/
def isGap (field : Field (Typed Payload)) (defaults : DefaultFields) (value : Typed Payload) :
    Bool :=
  field.strips defaults value || (field.type.isOptional && value.isMissing)

/-- What a field takes when it is read again. -/
def takenAgain (field : Field (Typed Payload)) (registry : Registry Payload)
    (defaults : DefaultFields) (value : Typed Payload) : Typed Payload :=
  if field.isGap defaults value then
    field.fallback?.getD .missing
  else
    registry.rereadOf defaults field.type value

theorem isDefault_iff (field : Field (Typed Payload)) (value : Typed Payload) :
    field.isDefault value = true ↔
      ∃ default, field.default? = some default ∧ default.typed.equal value = true := by
  rw [isDefault]
  cases field.default? with
  | none => simp
  | some default =>
      simp only [Option.some.injEq, exists_eq_left']
      rfl

/-- Only a field with a fallback is left out or left without a value. -/
theorem exists_fallback_of_isGap {field : Field (Typed Payload)} {defaults : DefaultFields}
    {value : Typed Payload} (gap : field.isGap defaults value = true) :
    ∃ fallback, field.fallback? = some fallback := by
  rw [isGap, Bool.or_eq_true, Bool.and_eq_true, strips_iff, isDefault_iff] at gap
  rcases gap with ⟨_, default, declared, _⟩ | ⟨optional, _⟩
  · exact ⟨default.typed, (field.fallback?_eq_some_iff _).2 (.inl ⟨default, declared, rfl⟩)⟩
  · cases declared : field.default? with
    | some default =>
        exact ⟨default.typed, (field.fallback?_eq_some_iff _).2 (.inl ⟨default, declared, rfl⟩)⟩
    | none => exact ⟨.missing, (field.fallback?_eq_some_iff _).2 (.inr ⟨declared, optional, rfl⟩)⟩

/-- A field takes its value again from entries that hold what was written for it. -/
theorem takes_takenAgain {field : Field (Typed Payload)}
    (rereads : registry.Rereads defaults field.type value)
    (validated : field.validate value = .ok ()) {entries : Entries Value}
    (found : entries.lookup field.name =
      field.output? defaults value (registry.outputOf defaults value)) :
    registry.Takes field entries (field.takenAgain registry defaults value) := by
  have input : field.input? entries =
      if field.isGap defaults value then none else some (registry.outputOf defaults value) := by
    cases strips : field.strips defaults value with
    | true =>
        rw [output?_of_strips strips] at found
        rw [input?, found, isGap, strips]
        rfl
    | false =>
        rw [output?_of_keeps strips] at found
        rw [input?_of_lookup found, isGap, strips, rereads.isNull_eq, Bool.false_or, Bool.and_comm]
  rw [takenAgain]
  split at input
  · next gap =>
      obtain ⟨fallback, steppedIn⟩ := exists_fallback_of_isGap gap
      rw [if_pos gap, steppedIn]
      exact .filled input steppedIn
  · next noGap =>
      rw [if_neg noGap]
      exact .given input (Returns.reportsNull_eq_false validated rereads.isNull_eq) rereads.read
        (rereads.validated validated)

end Field

/-! ## What a record writes and keeps -/

namespace RecordType

variable {recordType : RecordType (Typed Payload)} {extras : Entries Value}
  {output? : Field (Typed Payload) → Option Value} {layout : List String}

/-- The fields that have an output, written over the kept entries and arranged by the layout. -/
def output (recordType : RecordType (Typed Payload)) (extras : Entries Value)
    (layout : List String) (output? : Field (Typed Payload) → Option Value) : Entries Value :=
  Entries.arrange (Entries.overwrite Field.name output? recordType.fields extras) layout

omit [BEq Payload] in
theorem lookup_output (distinct : recordType.DistinctFields)
    (extrasDistinct : (Entries.keys extras).Nodup) {field : Field (Typed Payload)}
    (member : field ∈ recordType.fields) :
    (recordType.output extras layout output?).lookup field.name = output? field := by
  rw [output, Entries.lookup_arrange, Entries.lookup_overwrite extrasDistinct distinct member]

omit [BEq Payload] in
theorem lookup_output_of_not_declared (extrasDistinct : (Entries.keys extras).Nodup) {key : String}
    (notDeclared : recordType.declares key = false) :
    (recordType.output extras layout output?).lookup key = extras.lookup key := by
  have unnamed : key ∉ recordType.fields.map Field.name := by
    rw [← declares_iff, notDeclared]
    exact Bool.false_ne_true
  rw [output, Entries.lookup_arrange, Entries.lookup_overwrite_of_not_mem extrasDistinct unnamed]

omit [BEq Payload] in
theorem nodup_keys_output (extrasDistinct : (Entries.keys extras).Nodup)
    (layoutDistinct : layout.Nodup) :
    (Entries.keys (recordType.output extras layout output?)).Nodup :=
  Entries.nodup_keys_arrange (Entries.nodup_keys_overwrite extrasDistinct) layoutDistinct

omit [BEq Payload] in
theorem wellFormed_output (distinct : recordType.DistinctFields)
    (extrasWellFormed : (Value.map extras).WellFormed) (layoutDistinct : layout.Nodup)
    (outputs : ∀ field ∈ recordType.fields, ∀ raw, output? field = some raw → raw.WellFormed) :
    (Value.map (recordType.output extras layout output?)).WellFormed := by
  obtain ⟨extrasDistinct, valuesWellFormed⟩ := (Value.wellFormed_map_iff extras).1 extrasWellFormed
  have outputDistinct : (Entries.keys (recordType.output extras layout output?)).Nodup :=
    nodup_keys_output extrasDistinct layoutDistinct
  refine (Value.wellFormed_map_iff _).2 ⟨outputDistinct, ?_⟩
  rintro ⟨key, value⟩ member
  have found := Entries.lookup_of_mem outputDistinct member
  cases declared : recordType.declares key with
  | true =>
      obtain ⟨field, fieldMember, rfl⟩ := List.mem_map.1 ((declares_iff key).1 declared)
      rw [lookup_output distinct extrasDistinct fieldMember] at found
      exact outputs field fieldMember value found
  | false =>
      rw [lookup_output_of_not_declared extrasDistinct declared] at found
      exact valuesWellFormed _ (Entries.mem_of_lookup found)

omit [BEq Payload] in
/-- Records that are read from entries with the same undeclared look-ups keep equal entries. -/
theorem extrasEqual_reading (valueOf otherOf : Field (Typed Payload) → Typed Payload)
    {left right : Entries Value} (distinctLeft : (Entries.keys left).Nodup)
    (distinctRight : (Entries.keys right).Nodup)
    (sameLookup : ∀ key, recordType.declares key = false → left.lookup key = right.lookup key)
    (selfEqual : ∀ key value, recordType.declares key = false → left.lookup key = some value →
      value.equal value = true) :
    Typed.extrasEqual (recordType.reading valueOf left).extras?
      (recordType.reading otherOf right).extras? = true := by
  rw [reading, reading]
  cases recordType.isOpen with
  | false => rfl
  | true =>
      have distinctKept : ∀ {entries : Entries Value}, (Entries.keys entries).Nodup →
          (Entries.keys (entries.filter fun entry => !recordType.declares entry.1)).Nodup := by
        intro entries distinct
        rw [Entries.keys_filter fun key => !recordType.declares key]
        exact distinct.filter _
      refine (Value.equalEntries_iff _ _).2 (.of_lookup_eq (distinctKept distinctLeft)
        (distinctKept distinctRight) ?_ ?_)
      · intro key
        rw [Entries.lookup_filter fun key => !recordType.declares key,
          Entries.lookup_filter fun key => !recordType.declares key]
        cases declared : recordType.declares key with
        | true => rfl
        | false => exact sameLookup key declared
      · rintro ⟨key, value⟩ member
        obtain ⟨original, undeclared⟩ := List.mem_filter.1 member
        exact selfEqual key value (by simpa using undeclared)
          (Entries.lookup_of_mem distinctLeft original)

/-- What a record with the given values and kept entries is written as. -/
def outputOf (recordType : RecordType (Typed Payload)) (registry : Registry Payload)
    (defaults : DefaultFields) (valueOf : Field (Typed Payload) → Typed Payload)
    (extras : Entries Value) (layout : List String) : Entries Value :=
  recordType.output extras layout fun field =>
    field.output? defaults (valueOf field) (registry.outputOf defaults (valueOf field))

end RecordType

/-- A record is written and read again if its fields are; each field then takes its value again. -/
theorem Yields.record {name : String} {recordType : RecordType (Typed Payload)}
    {valueOf : Field (Typed Payload) → Typed Payload} {extras? : Option (Entries Value)}
    {layout : List String} (registered : registry.record? name = some recordType)
    (regular : Record.Regular ⟨recordType, recordType.table valueOf, extras?, layout⟩)
    (fields : ∀ field ∈ recordType.fields, registry.Rereads defaults field.type (valueOf field)) :
    Yields registry defaults (.record name)
      (.record ⟨recordType, recordType.table valueOf, extras?, layout⟩)
      (.map (recordType.outputOf registry defaults valueOf (extras?.getD []) layout))
      (.record (recordType.reading
        (fun field => field.takenAgain registry defaults (valueOf field))
        (recordType.outputOf registry defaults valueOf (extras?.getD []) layout))) := by
  have distinct : recordType.DistinctFields := regular.wellDeclared.distinct
  have extrasDistinct : (Entries.keys (extras?.getD [])).Nodup :=
    ((Value.wellFormed_map_iff (extras?.getD [])).1 regular.extrasWellFormed).1
  refine ⟨?_, ?_, rfl, ?_, rfl, nofun⟩
  · exact (Registry.unstructure_record_eq_ok_iff distinct valueOf extrasDistinct
      regular.layoutDistinct _).2
      ⟨fun field => registry.outputOf defaults (valueOf field),
        fun field member _ => (fields field member).written, rfl⟩
  · apply RecordType.wellFormed_output distinct regular.extrasWellFormed regular.layoutDistinct
    intro field member raw output
    rw [Field.output?] at output
    split at output
    · contradiction
    · cases output
      exact (fields field member).wellFormed
  · refine (Registry.structureAs_record_eq_ok_iff registry name _ _).2 ⟨recordType, _, registered,
      (Registry.structureWith_eq_ok_iff registry distinct _ _).2 ⟨_, _, rfl, ?_, rfl⟩, rfl⟩
    intro field member
    have held := RecordType.lookup_table distinct valueOf member
    exact Field.takes_takenAgain (fields field member) (regular.accepts member held).1
      (RecordType.lookup_output distinct extrasDistinct member)

end Recast
