import Recast.Proofs.Record.Regular
import Recast.Proofs.Registry.Built
import Recast.Proofs.Typed.Distinct

/-!
# Structured values conform to their types

What an untyped value without repeated keys denotes as a type is admitted by the type and is
regular.  Values that fill gaps are structured from declared defaults, so the same holds of them.
A record type may also be read through another registry than the one that declares it.
-/

namespace Recast

variable {Payload : Type} [BEq Payload]

/-- A record that is read from entries without repeated keys is regular if the values that it
takes from them and the defaults that fill its gaps are. -/
theorem RecordType.regular_reading {recordType : RecordType (Typed Payload)}
    (wellDeclared : recordType.WellDeclared)
    {valueOf : Field (Typed Payload) → Typed Payload} {entries : Entries Value}
    (wellFormed : (Value.map entries).WellFormed)
    (given : ∀ field ∈ recordType.fields, ∀ raw, field.input? entries = some raw →
      raw.WellFormed → field.Accepts (valueOf field) ∧ (valueOf field).Regular)
    (filled : ∀ field ∈ recordType.fields, field.input? entries = none →
      field.fallback? = some (valueOf field))
    (defaults : ∀ field ∈ recordType.fields, field.input? entries = none →
      ∀ default, field.default? = some default →
        field.type.admits default.typed = true ∧ default.typed.Regular) :
    (Typed.record (recordType.reading valueOf entries)).Regular := by
  obtain ⟨distinct, valuesWellFormed⟩ := (Value.wellFormed_map_iff entries).1 wellFormed
  apply regular_of_table wellDeclared
  · intro field member
    cases input : field.input? entries with
    | some raw =>
        have rawMember := Entries.mem_of_lookup (Registry.lookup_of_input? input)
        exact given field member raw input (valuesWellFormed _ rawMember)
    | none =>
        exact Field.accepts_and_regular_of_fallback (wellDeclared.attached field member)
          (defaults field member input) (filled field member input)
  · cases recordType.isOpen <;> rfl
  · rw [Value.wellFormed_map_iff]
    cases recordType.isOpen with
    | false => exact ⟨List.nodup_nil, by simp⟩
    | true =>
        refine ⟨?_, fun entry member => valuesWellFormed entry (List.mem_of_mem_filter member)⟩
        rw [if_pos rfl, Option.getD_some, Entries.keys_filter fun key => !recordType.declares key]
        exact distinct.filter _
  · cases recordType.isOpen with
    | false => exact List.nodup_nil
    | true => exact distinct
  · intro closed
    rw [closed]
    rfl

namespace Registry

variable {registry : Registry Payload}

/-- What a value denotes as a type is admitted by the type. -/
theorem Structures.admits {type : TypeExpr} {raw : Value} {value : Typed Payload}
    (structures : registry.Structures type raw value) :
    type.admits value = true := by
  induction structures with
  | missing inner => exact (TypeExpr.admits_optional_iff inner .missing).2 (.inl rfl)
  | @optional inner _ value _ _ inductionHypothesis =>
      exact (TypeExpr.admits_optional_iff inner value).2 (.inr inductionHypothesis)
  | @sequence item items valueOf _ inductionHypothesis =>
      exact (TypeExpr.admits_sequence_iff item _).2
        ⟨_, rfl, List.forall_mem_map.2 inductionHypothesis⟩
  | @set item items valueOf _ inductionHypothesis =>
      exact (TypeExpr.admits_set_iff item _).2
        ⟨_, rfl, Typed.forall_mem_keepDistinct (List.forall_mem_map.2 inductionHypothesis),
          Typed.allDistinct_keepDistinct rfl _⟩
  | @mapping type entries valueOf _ inductionHypothesis =>
      exact (TypeExpr.admits_mapping_iff .str type _).2
        ⟨_, rfl, List.forall_mem_map.2 inductionHypothesis⟩
  | @record name recordType entries valueOf registered =>
      exact (TypeExpr.admits_record_iff name _).2 ⟨_, rfl, (record?_eq_some registered).2⟩
  | @custom name hook raw payload =>
      exact (TypeExpr.admits_custom_iff name _).2 ⟨payload, rfl⟩
  | _ => rfl

/-- What a value without repeated keys denotes is regular. -/
theorem Structures.regular (coherent : registry.Coherent) {type : TypeExpr} {raw : Value}
    {value : Typed Payload} (structures : registry.Structures type raw value)
    (wellFormed : raw.WellFormed) :
    value.Regular := by
  induction structures with
  | optional _ _ inductionHypothesis => exact inductionHypothesis wellFormed
  | any raw => exact (Typed.everywhere_of_parts_eq_nil rfl).2 wellFormed
  | @sequence item items valueOf _ inductionHypothesis =>
      rw [Value.wellFormed_array_iff] at wellFormed
      refine (Typed.everywhere_sequence_iff _).2 ⟨trivial, List.forall_mem_map.2 ?_⟩
      exact fun part member => inductionHypothesis part member (wellFormed part member)
  | @set item items valueOf _ inductionHypothesis =>
      rw [Value.wellFormed_array_iff] at wellFormed
      refine (Typed.everywhere_set_iff _).2 ⟨Typed.allDistinct_keepDistinct rfl _,
        Typed.forall_mem_keepDistinct (List.forall_mem_map.2 ?_)⟩
      exact fun part member => inductionHypothesis part member (wellFormed part member)
  | @mapping type entries valueOf _ inductionHypothesis =>
      obtain ⟨distinct, valuesWellFormed⟩ := (Value.wellFormed_map_iff entries).1 wellFormed
      refine (Typed.everywhere_mapping_iff _).2 ⟨?_, List.forall_mem_map.2 ?_⟩
      · rw [Typed.RegularHere, Entries.keys_mapValues]
        exact distinct
      · exact fun entry member => inductionHypothesis entry member (valuesWellFormed entry member)
  | @record name recordType entries valueOf registered given passed filled defaults defaulted
      givenRegular defaultedRegular =>
      have sound := coherent.soundIn registered
      apply RecordType.regular_reading sound.toWellDeclared wellFormed
      · intro field member raw input rawWellFormed
        exact ⟨⟨(passed field member raw input).2, (given field member raw input).admits⟩,
          givenRegular field member raw input rawWellFormed⟩
      · exact filled
      · intro field member absent default declared
        obtain ⟨rawWellFormed, sameValue⟩ := defaults field member absent default declared
        rw [sameValue]
        exact ⟨(defaulted field member absent default declared).admits,
          defaultedRegular field member absent default declared rawWellFormed⟩
  | _ => exact (Typed.everywhere_of_parts_eq_nil rfl).2 trivial

/-- What a value denotes as a type conforms to the type. -/
theorem Structures.admits_and_regular (coherent : registry.Coherent) {type : TypeExpr}
    {raw : Value} {value : Typed Payload} (structures : registry.Structures type raw value)
    (wellFormed : raw.WellFormed) :
    type.admits value = true ∧ value.Regular :=
  ⟨structures.admits, structures.regular coherent wellFormed⟩

end Registry

/-- Declared defaults conform to the types of their fields. -/
theorem RecordType.SoundIn.default_admits_and_regular {home : Registry Payload}
    (coherent : home.Coherent) {recordType : RecordType (Typed Payload)}
    (sound : recordType.SoundIn home) {field : Field (Typed Payload)}
    (member : field ∈ recordType.fields) {default : FieldDefault (Typed Payload)}
    (declared : field.default? = some default) :
    field.type.admits default.typed = true ∧ default.typed.Regular := by
  obtain ⟨wellFormed, structures⟩ := sound.defaults field member default declared
  exact structures.admits_and_regular coherent wellFormed

/-- A record is regular also where the registry that reads it is not the one that declares its
type. -/
theorem Registry.regular_of_structureWith {registry home : Registry Payload}
    (coherent : registry.Coherent) (homeCoherent : home.Coherent)
    {recordType : RecordType (Typed Payload)} (sound : recordType.SoundIn home) {raw : Value}
    (wellFormed : raw.WellFormed) {record : Record (Typed Payload)}
    (structured : registry.structureWith recordType raw = .ok record) :
    (Typed.record record).Regular := by
  obtain ⟨entries, valueOf, rfl, taken, rfl⟩ :=
    (structureWith_eq_ok_iff registry sound.distinct raw record).1 structured
  apply RecordType.regular_reading sound.toWellDeclared wellFormed
  · intro field member raw input rawWellFormed
    obtain ⟨_, structuredField, validated⟩ := (taken field member).of_input input
    obtain ⟨admitted, regular⟩ :=
      (structures_of_ok coherent structuredField).admits_and_regular coherent rawWellFormed
    exact ⟨⟨validated, admitted⟩, regular⟩
  · exact fun field member absent => (taken field member).of_no_input absent
  · exact fun field member _ default declared =>
      sound.default_admits_and_regular homeCoherent member declared

end Recast
