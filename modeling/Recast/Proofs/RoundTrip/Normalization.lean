import Recast.Proofs.RoundTrip.Returning
import Recast.Proofs.Typed.Layout

/-!
# Reading what was written of what was read

Whatever input a record is read from, the record is settled: writing it and reading it again gives
the same values and kept entries, and writing that gives the same untyped value.  Nothing is asked
of the input, so gaps are filled with defaults on the first pass only, equal items of sets and
undeclared keys of closed types are dropped on the first pass only, and NaN is as good as any
number.
-/

namespace Recast

variable {Payload : Type} [BEq Payload]

/-- Whatever payload the hook makes of a value has an untyped form, other than `null`, of which
the hook makes that payload. -/
def Hook.RestoresOwn (hook : Hook Payload) : Prop :=
  ∀ raw payload, raw.WellFormed → hook.structurePayload raw = .ok payload →
    ∃ written, hook.unstructurePayload? payload = some written ∧ written.isNull = false ∧
      hook.structurePayload written = .ok payload

/-- The same with a payload that is like it. -/
def Hook.RestoresAlike (like : Payload → Payload → Prop) (hook : Hook Payload) : Prop :=
  ∀ raw payload, raw.WellFormed → hook.structurePayload raw = .ok payload →
    ∃ written again, hook.unstructurePayload? payload = some written ∧ written.isNull = false ∧
      hook.structurePayload written = .ok again ∧ like payload again

/-! ## Structured values are arranged -/

namespace Typed

/-- The entries that a record keeps are in the order of its layout. -/
def ArrangedHere : Typed Payload → Prop
  | .record held => held.extras?.map (Entries.arrange · held.layout) = held.extras?
  | _ => True

/-- The kept entries of all records in the value are in the order of their layouts. -/
def Arranged (value : Typed Payload) : Prop :=
  Everywhere parts ArrangedHere value

end Typed

omit [BEq Payload] in
theorem RecordType.arranged_reading {recordType : RecordType (Typed Payload)}
    (valueOf : Field (Typed Payload) → Typed Payload) {entries : Entries Value}
    (distinct : (Entries.keys entries).Nodup) :
    (Typed.record (recordType.reading valueOf entries)).ArrangedHere := by
  rw [Typed.ArrangedHere, reading]
  cases recordType.isOpen with
  | false => rfl
  | true =>
      exact congrArg some
        (Entries.arrange_filter_keys distinct fun key => !recordType.declares key)

/-! ## Structured values are settled -/

namespace Registry

variable {registry : Registry Payload}

/-- An optional field that is missing in what was read was not given. -/
theorem Structures.input?_eq_none_of_missing {field : Field (Typed Payload)}
    {entries : Entries Value} {value : Typed Payload}
    (given : ∀ raw, field.input? entries = some raw → registry.Structures field.type raw value)
    (optional : field.type.isOptional = true) (isMissing : value = .missing) :
    field.input? entries = none := by
  cases input : field.input? entries with
  | none => rfl
  | some raw =>
      have notSkipped := (Option.filter_eq_some_iff.1 input).2
      rw [optional, Bool.and_true, Bool.not_eq_true'] at notSkipped
      have present := (given raw input).isMissing_eq_false notSkipped
      rw [isMissing] at present
      contradiction

/-- What a value denotes can be written and read again, if hooks make like payloads of what they
write. -/
theorem Structures.settled_of_restoresAlike {like : Payload → Payload → Prop}
    (coherent : registry.Coherent)
    (restores : ∀ name hook, registry.hook? name = some hook → hook.RestoresAlike like)
    {type : TypeExpr} {raw : Value} {value : Typed Payload}
    (structures : registry.Structures type raw value) (wellFormed : raw.WellFormed) :
    Settled registry like type value ∧ value.Arranged := by
  induction structures with
  | missing inner => exact ⟨.missing inner, (Typed.everywhere_of_parts_eq_nil rfl).2 trivial⟩
  | optional present structures inductionHypothesis =>
      obtain ⟨settled, arranged⟩ := inductionHypothesis wellFormed
      exact ⟨.optional (structures.isMissing_eq_false present) settled, arranged⟩
  | str text => exact ⟨.str text, (Typed.everywhere_of_parts_eq_nil rfl).2 trivial⟩
  | int number => exact ⟨.int number, (Typed.everywhere_of_parts_eq_nil rfl).2 trivial⟩
  | float number => exact ⟨.float number, (Typed.everywhere_of_parts_eq_nil rfl).2 trivial⟩
  | widened number => exact ⟨.float _, (Typed.everywhere_of_parts_eq_nil rfl).2 trivial⟩
  | bool truth => exact ⟨.bool truth, (Typed.everywhere_of_parts_eq_nil rfl).2 trivial⟩
  | any raw => exact ⟨.any raw, (Typed.everywhere_of_parts_eq_nil rfl).2 trivial⟩
  | @sequence item items valueOf _ inductionHypothesis =>
      rw [Value.wellFormed_array_iff] at wellFormed
      have each : ∀ part ∈ items.map valueOf, Settled registry like item part ∧ part.Arranged := by
        rw [List.forall_mem_map]
        exact fun part member => inductionHypothesis part member (wellFormed part member)
      exact ⟨.sequence fun part member => (each part member).1,
        (Typed.everywhere_sequence_iff _).2 ⟨trivial, fun part member => (each part member).2⟩⟩
  | @set item items valueOf _ inductionHypothesis =>
      rw [Value.wellFormed_array_iff] at wellFormed
      have each : ∀ part ∈ Typed.keepDistinct [] (items.map valueOf),
          Settled registry like item part ∧ part.Arranged := by
        apply Typed.forall_mem_keepDistinct
        rw [List.forall_mem_map]
        exact fun part member => inductionHypothesis part member (wellFormed part member)
      exact ⟨.set fun part member => (each part member).1,
        (Typed.everywhere_set_iff _).2 ⟨trivial, fun part member => (each part member).2⟩⟩
  | @mapping type entries valueOf _ inductionHypothesis =>
      have valuesWellFormed := ((Value.wellFormed_map_iff entries).1 wellFormed).2
      have each : ∀ entry ∈ Entries.mapValues valueOf entries,
          Settled registry like type entry.2 ∧ entry.2.Arranged := by
        rw [Entries.mapValues, List.forall_mem_map]
        exact fun entry member => inductionHypothesis entry member (valuesWellFormed entry member)
      exact ⟨.mapping fun entry member => (each entry member).1,
        (Typed.everywhere_mapping_iff _).2 ⟨trivial, fun entry member => (each entry member).2⟩⟩
  | @record name recordType entries valueOf registered given passed filled defaults defaulted
      givenLater defaultedLater =>
      obtain ⟨distinct, valuesWellFormed⟩ := (Value.wellFormed_map_iff entries).1 wellFormed
      have regular := ((Structures.record valueOf registered given passed filled defaults
        defaulted).admits_and_regular coherent wellFormed).2.here
      have each : ∀ field ∈ recordType.fields,
          Settled registry like field.type (valueOf field) ∧ (valueOf field).Arranged := by
        intro field member
        cases input : field.input? entries with
        | some raw =>
            have rawMember := Entries.mem_of_lookup (lookup_of_input? input)
            exact givenLater field member raw input (valuesWellFormed _ rawMember)
        | none =>
            apply Field.of_fallback?
              (fun type value => Settled registry like type value ∧ value.Arranged) _ _
              (filled field member input)
            · exact fun inner =>
                ⟨.missing inner, (Typed.everywhere_of_parts_eq_nil rfl).2 trivial⟩
            · intro default declared
              obtain ⟨rawWellFormed, sameValue⟩ := defaults field member input default declared
              rw [sameValue]
              exact defaultedLater field member input default declared rawWellFormed
      have fallback : ∀ field ∈ recordType.fields, field.type.isOptional = true →
          valueOf field = .missing → field.fallback? = some .missing := by
        intro field member optional isMissing
        rw [← isMissing]
        exact filled field member
          (Structures.input?_eq_none_of_missing (given field member) optional isMissing)
      refine ⟨.record registered regular (RecordType.undeclared_reading valueOf entries) fallback
        fun field member => (each field member).1, (Typed.everywhere_record_iff _).2
        ⟨RecordType.arranged_reading valueOf distinct, ?_⟩⟩
      intro entry member
      obtain ⟨field, fieldMember, rfl⟩ := RecordType.mem_table.1 member
      exact (each field fieldMember).2
  | @custom name hook raw payload registered structured =>
      obtain ⟨written, again, unstructured, notNull, restored, alike⟩ :=
        restores name hook registered raw payload wellFormed structured
      exact ⟨.custom registered unstructured notNull restored alike,
        (Typed.everywhere_of_parts_eq_nil rfl).2 trivial⟩

/-- What a value denotes can be written and read again, payloads coming back as they are. -/
theorem Structures.settled (coherent : registry.Coherent)
    (restores : ∀ name hook, registry.hook? name = some hook → hook.RestoresOwn)
    {type : TypeExpr} {raw : Value} {value : Typed Payload}
    (structures : registry.Structures type raw value) (wellFormed : raw.WellFormed) :
    Settled registry Eq type value ∧ value.Arranged := by
  refine structures.settled_of_restoresAlike coherent ?_ wellFormed
  intro name hook found raw payload rawWellFormed structured
  obtain ⟨written, unstructured, notNull, restored⟩ :=
    restores name hook found raw payload rawWellFormed structured
  exact ⟨written, payload, unstructured, notNull, restored, rfl⟩

end Registry

/-! ## Arranged values come back as they are -/

omit [BEq Payload] in
/-- Where payloads come back as they are and kept entries are arranged, only remembered key orders
change. -/
theorem Reread.withoutLayout_eq {value again : Typed Payload} (reread : Reread Eq value again)
    (arranged : value.Arranged) :
    again.withoutLayout = value.withoutLayout := by
  induction reread with
  | sequence again _ inductionHypothesis =>
      rw [Typed.withoutLayout, Typed.withoutLayout, Typed.itemsWithoutLayout_eq_map,
        Typed.itemsWithoutLayout_eq_map, List.map_map]
      exact congrArg Typed.sequence (List.map_congr_left fun item member =>
        inductionHypothesis item member (arranged.inside member))
  | set again _ inductionHypothesis =>
      rw [Typed.withoutLayout, Typed.withoutLayout, Typed.itemsWithoutLayout_eq_map,
        Typed.itemsWithoutLayout_eq_map, List.map_map]
      exact congrArg Typed.set (List.map_congr_left fun item member =>
        inductionHypothesis item member (arranged.inside member))
  | mapping again _ inductionHypothesis =>
      rw [Typed.withoutLayout, Typed.withoutLayout, Typed.entriesWithoutLayout_eq_mapValues,
        Typed.entriesWithoutLayout_eq_mapValues, Entries.mapValues, Entries.mapValues,
        Entries.mapValues, List.map_map]
      exact congrArg Typed.mapping (List.map_congr_left fun entry member =>
        congrArg (Prod.mk entry.1) (inductionHypothesis entry member
          (arranged.inside (Typed.mem_parts_mapping member))))
  | @record recordType valueOf again extras? layout later _ inductionHypothesis =>
      have sameExtras : extras?.map (Entries.arrange · layout) = extras? := arranged.here
      have sameValues : ∀ field ∈ recordType.fields,
          (again field).withoutLayout = (valueOf field).withoutLayout := fun field member =>
        inductionHypothesis field member
          (arranged.inside (Typed.mem_parts_table valueOf _ _ member))
      rw [Typed.withoutLayout, Typed.withoutLayout, Typed.entriesWithoutLayout_eq_mapValues,
        Typed.entriesWithoutLayout_eq_mapValues, sameExtras, RecordType.table, RecordType.table,
        Entries.mapValues_tabulate, Entries.mapValues_tabulate,
        Entries.tabulate_congr sameValues]
  | custom name same => rw [same]
  | _ => rfl

theorem setsStayDistinct_of_arranged {value : Typed Payload} (regular : value.Regular)
    (arranged : value.Arranged) :
    SetsStayDistinct Eq value := by
  intro items occurs again reread
  have distinct := (Typed.allDistinct_iff items).1 (regular _ occurs)
  rw [Typed.allDistinct_iff, List.pairwise_map]
  refine distinct.imp_of_mem ?_
  intro earlier later earlierMember laterMember different
  have itemArranged : ∀ item ∈ items, item.Arranged := fun item member =>
    (arranged.within occurs).inside member
  have sameEarlier :=
    (reread earlier earlierMember).withoutLayout_eq (itemArranged earlier earlierMember)
  have sameLater := (reread later laterMember).withoutLayout_eq (itemArranged later laterMember)
  calc
    (again earlier).equal (again later) =
        (again earlier).withoutLayout.equal (again later).withoutLayout :=
      (Typed.equal_withoutLayout _ _).symm
    _ = earlier.withoutLayout.equal later.withoutLayout := by rw [sameEarlier, sameLater]
    _ = earlier.equal later := Typed.equal_withoutLayout _ _
    _ = false := different

namespace Registry

variable {alphabet : Text.Alphabet} {registry : Registry Payload}

/-- Normalization is idempotent: whatever input a record is read from, it can be written, and what
is written is read as a record with the same values and kept entries, at every depth, which is
written in the same way, also in the order of keys. -/
theorem normalization_idempotent (built : registry.Built alphabet)
    (restores : ∀ name hook, registry.hook? name = some hook → hook.RestoresOwn)
    {name : String} {raw : Value} (wellFormed : raw.WellFormed)
    {record : Record (Typed Payload)}
    (structured : registry.structureRecord name raw = .ok record) :
    ∃ normal again, registry.unstructureRecord .written record = .ok normal ∧
      registry.structureRecord name normal = .ok again ∧
      (Typed.record again).withoutLayout = (Typed.record record).withoutLayout ∧
      registry.unstructureRecord .written again = .ok normal := by
  have structures := structures_of_ok built.coherent
    ((structureAs_record_iff registry name raw record).2 structured)
  obtain ⟨settled, arranged⟩ := structures.settled built.coherent restores wellFormed
  obtain ⟨_, regular⟩ := structures.admits_and_regular built.coherent wellFormed
  obtain ⟨normal, again, returned⟩ :=
    settled.returns (setsStayDistinct_of_arranged regular arranged)
  have same := returned.reread.withoutLayout_eq arranged
  have rewritten := returned.rewritten fun _ _ => Eq.symm
  have read := returned.read
  obtain ⟨recordType, later, _, _, rfl⟩ := (structureAs_record_eq_ok_iff registry name _ _).1 read
  exact ⟨normal, later, returned.written,
    (structureAs_record_iff registry name normal later).1 read, same, rewritten⟩

end Registry

namespace Sample

theorem restoresOwn_tagHook : tagHook.RestoresOwn := by
  intro raw payload _ structured
  cases raw <;> cases structured
  exact ⟨.string payload, rfl, rfl, rfl⟩

/-- A pet without an age is written with its default age, after the keys that it had. -/
theorem normalization_petInput :
    petInput.WellFormed ∧ registry.structureRecord "Pet" petInput = .ok pet ∧
      ∃ normal again, registry.unstructureRecord .written pet = .ok normal ∧
        registry.structureRecord "Pet" normal = .ok again ∧
        (Typed.record again).withoutLayout = (Typed.record pet).withoutLayout ∧
        registry.unstructureRecord .written again = .ok normal := by
  have restores : ∀ name hook, registry.hook? name = some hook → hook.RestoresOwn := by
    intro name hook found
    rw [eq_tagHook_of_hook? found]
    exact restoresOwn_tagHook
  exact ⟨wellFormed_petInput, structureRecord_petInput,
    Registry.normalization_idempotent built_registry restores wellFormed_petInput
      structureRecord_petInput⟩

end Sample

end Recast
