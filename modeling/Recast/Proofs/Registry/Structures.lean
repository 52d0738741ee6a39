import Recast.Proofs.Registry.Reading
import Recast.Proofs.TypeExpr.Induction
import Recast.Proofs.Typed.Distinct
import Recast.Proofs.Value.Equality

/-!
# What a value structures to

The relation `Structures` says without an order of computation which typed value an untyped value
structures to.  In a coherent registry it holds exactly where structuring succeeds.  A derivation
reaches into the defaults that fill the gaps of records, so an induction over derivations covers
every value that a structured value is made of.
-/

namespace Recast

variable {Payload : Type} [BEq Payload]

namespace Registry

/-- `Structures registry type raw value`: as the type, the untyped value denotes the typed one. -/
inductive Structures (registry : Registry Payload) :
    TypeExpr → Value → Typed Payload → Prop
  | missing (inner : TypeExpr) : Structures registry (.optional inner) .null .missing
  | optional {inner : TypeExpr} {raw : Value} {value : Typed Payload} :
      raw.isNull = false →
      Structures registry inner raw value →
      Structures registry (.optional inner) raw value
  | str (text : String) : Structures registry (.scalar .str) (.string text) (.str text)
  | int (number : Int64) : Structures registry (.scalar .int) (.integer number) (.int number)
  | float (number : Binary64) :
      Structures registry (.scalar .float) (.float number) (.float number)
  | widened (number : Int64) :
      Structures registry (.scalar .float) (.integer number) (.float (.ofInt number.toInt))
  | bool (truth : Bool) : Structures registry (.scalar .bool) (.bool truth) (.bool truth)
  | any (raw : Value) : Structures registry .any raw (.raw raw)
  | sequence {item : TypeExpr} {items : List Value} (valueOf : Value → Typed Payload) :
      (∀ part ∈ items, Structures registry item part (valueOf part)) →
      Structures registry (.sequence item) (.array items) (.sequence (items.map valueOf))
  | set {item : TypeExpr} {items : List Value} (valueOf : Value → Typed Payload) :
      (∀ part ∈ items, Structures registry item part (valueOf part)) →
      Structures registry (.set item) (.array items)
        (.set (Typed.keepDistinct [] (items.map valueOf)))
  | mapping {type : TypeExpr} {entries : Entries Value} (valueOf : Value → Typed Payload) :
      (∀ entry ∈ entries, Structures registry type entry.2 (valueOf entry.2)) →
      Structures registry (.mapping .str type) (.map entries)
        (.mapping (Entries.mapValues valueOf entries))
  | record {name : String} {recordType : RecordType (Typed Payload)} {entries : Entries Value}
      (valueOf : Field (Typed Payload) → Typed Payload)
      (registered : registry.record? name = some recordType)
      (given : ∀ field ∈ recordType.fields, ∀ raw, field.input? entries = some raw →
        Structures registry field.type raw (valueOf field))
      (passed : ∀ field ∈ recordType.fields, ∀ raw, field.input? entries = some raw →
        field.reportsNull raw = false ∧ field.validate (valueOf field) = .ok ())
      (filled : ∀ field ∈ recordType.fields, field.input? entries = none →
        field.fallback? = some (valueOf field))
      (defaults : ∀ field ∈ recordType.fields, field.input? entries = none →
        ∀ default, field.default? = some default →
          default.raw.WellFormed ∧ default.typed = valueOf field)
      (defaulted : ∀ field ∈ recordType.fields, field.input? entries = none →
        ∀ default, field.default? = some default →
          Structures registry field.type default.raw (valueOf field)) :
      Structures registry (.record name) (.map entries)
        (.record (recordType.reading valueOf entries))
  | custom {name : String} {hook : Hook Payload} {raw : Value} {payload : Payload} :
      registry.hook? name = some hook →
      hook.structurePayload raw = .ok payload →
      Structures registry (.custom name) raw (.custom name payload)

end Registry

/-- A record type that a registry has checked: it is declared well, and defaults are structured
as the types of their fields. -/
structure RecordType.SoundIn (registry : Registry Payload)
    (recordType : RecordType (Typed Payload)) : Prop extends recordType.WellDeclared where
  defaults : ∀ field ∈ recordType.fields, ∀ default, field.default? = some default →
    default.raw.WellFormed ∧ registry.Structures field.type default.raw default.typed

namespace Registry

/-- Every record type of the registry is sound in it. -/
def Coherent (registry : Registry Payload) : Prop :=
  ∀ recordType ∈ registry.records, recordType.SoundIn registry

variable {registry : Registry Payload}

theorem Coherent.soundIn (coherent : registry.Coherent) {name : String}
    {recordType : RecordType (Typed Payload)}
    (found : registry.record? name = some recordType) :
    recordType.SoundIn registry :=
  coherent recordType (record?_eq_some found).1

/-! ## Defaults that step in -/

omit [BEq Payload] in
theorem typed_of_fallback? {field : Field (Typed Payload)} {value : Typed Payload}
    (fallback : field.fallback? = some value) {default : FieldDefault (Typed Payload)}
    (declared : field.default? = some default) :
    default.typed = value := by
  rcases (field.fallback?_eq_some_iff value).1 fallback with
    ⟨_, sameDefault, rfl⟩ | ⟨noDefault, _⟩
  · rw [declared] at sameDefault
    cases sameDefault
    rfl
  · rw [declared] at noDefault
    contradiction

/-! ## Agreement with the function -/

/-- A value that structuring yields is what the value denotes. -/
theorem structures_of_ok (coherent : registry.Coherent) {type : TypeExpr} {raw : Value}
    {value : Typed Payload} (structured : registry.structureAs raw type = .ok value) :
    registry.Structures type raw value := by
  induction type, raw using TypeExpr.inductionWithParts Value.partsInduction generalizing value with
  | optional inner raw inductionHypothesis =>
      cases present : raw.isNull with
      | true =>
          cases raw <;> try contradiction
          rw [structureAs_null_optional] at structured
          cases structured
          exact .missing inner
      | false =>
          rw [structureAs_optional registry present] at structured
          exact .optional present (inductionHypothesis structured)
  | scalar kind raw =>
      cases kind <;> cases raw <;>
        first
          | contradiction
          | (cases structured; constructor)
  | any raw =>
      rw [structureAs_any] at structured
      cases structured
      exact .any raw
  | sequence item raw inductionHypothesis =>
      obtain ⟨items, valueOf, rfl, each, rfl⟩ :=
        (structureAs_sequence_eq_ok_iff registry item raw value).1 structured
      exact .sequence valueOf fun part member =>
        inductionHypothesis part member item (each part member)
  | set item raw inductionHypothesis =>
      obtain ⟨items, valueOf, rfl, each, rfl⟩ :=
        (structureAs_set_eq_ok_iff registry item raw value).1 structured
      exact .set valueOf fun part member =>
        inductionHypothesis part member item (each part member)
  | mapping key type raw inductionHypothesis =>
      obtain ⟨entries, valueOf, rfl, rfl, each, rfl⟩ :=
        (structureAs_mapping_eq_ok_iff registry key type raw value).1 structured
      exact .mapping valueOf fun entry member =>
        inductionHypothesis entry.2 (Value.mem_parts_map member) type (each entry member)
  | record name raw inductionHypothesis =>
      obtain ⟨recordType, record, registered, read, rfl⟩ :=
        (structureAs_record_eq_ok_iff registry name raw value).1 structured
      have sound := coherent.soundIn registered
      obtain ⟨entries, valueOf, rfl, taken, rfl⟩ :=
        (structureWith_eq_ok_iff registry sound.distinct raw record).1 read
      have sameDefault : ∀ field ∈ recordType.fields, field.input? entries = none →
          ∀ default, field.default? = some default → default.typed = valueOf field :=
        fun field member absent default declared =>
          typed_of_fallback? ((taken field member).of_no_input absent) declared
      refine .record valueOf registered ?_ ?_ ?_ ?_ ?_
      · intro field member part input
        have partMember := Value.mem_parts_of_lookup (lookup_of_input? input)
        exact inductionHypothesis part partMember field.type
          ((taken field member).of_input input).2.1
      · intro field member part input
        obtain ⟨notReported, _, validated⟩ := (taken field member).of_input input
        exact ⟨notReported, validated⟩
      · intro field member absent
        exact (taken field member).of_no_input absent
      · intro field member absent default declared
        exact ⟨(sound.defaults field member default declared).1,
          sameDefault field member absent default declared⟩
      · intro field member absent default declared
        rw [← sameDefault field member absent default declared]
        exact (sound.defaults field member default declared).2
  | custom name raw =>
      obtain ⟨hook, payload, registered, structuredPayload, rfl⟩ :=
        (structureAs_custom_eq_ok_iff registry name raw value).1 structured
      exact .custom registered structuredPayload

/-- What a value denotes is what structuring yields. -/
theorem ok_of_structures (coherent : registry.Coherent) {type : TypeExpr} {raw : Value}
    {value : Typed Payload} (structures : registry.Structures type raw value) :
    registry.structureAs raw type = .ok value := by
  induction structures with
  | missing inner => rfl
  | optional present _ inductionHypothesis =>
      rw [structureAs_optional registry present]
      exact inductionHypothesis
  | any raw => exact structureAs_any registry raw
  | sequence valueOf _ inductionHypothesis =>
      exact (structureAs_sequence_eq_ok_iff registry _ _ _).2
        ⟨_, valueOf, rfl, inductionHypothesis, rfl⟩
  | set valueOf _ inductionHypothesis =>
      exact (structureAs_set_eq_ok_iff registry _ _ _).2
        ⟨_, valueOf, rfl, inductionHypothesis, rfl⟩
  | mapping valueOf _ inductionHypothesis =>
      exact (structureAs_mapping_eq_ok_iff registry _ _ _ _).2
        ⟨_, valueOf, rfl, rfl, inductionHypothesis, rfl⟩
  | @record name recordType entries valueOf registered _ passed filled _ _ givenOk _ =>
      refine (structureAs_record_eq_ok_iff registry _ _ _).2
        ⟨recordType, _, registered, ?_, rfl⟩
      refine (structureWith_eq_ok_iff registry (coherent.soundIn registered).distinct _ _).2
        ⟨entries, valueOf, rfl, ?_, rfl⟩
      intro field member
      cases input : field.input? entries with
      | none => exact .filled input (filled field member input)
      | some raw =>
          obtain ⟨notReported, validated⟩ := passed field member raw input
          exact .given input notReported (givenOk field member raw input) validated
  | custom registered structured =>
      exact (structureAs_custom_eq_ok_iff registry _ _ _).2
        ⟨_, _, registered, structured, rfl⟩
  | _ => rfl

/-! ## What validators look at -/

/-- Only `null` is structured as a value that counts as missing. -/
theorem Structures.isMissing_eq_false {type : TypeExpr} {raw : Value} {value : Typed Payload}
    (structures : registry.Structures type raw value) (present : raw.isNull = false) :
    value.isMissing = false := by
  induction structures with
  | missing inner => contradiction
  | optional _ _ inductionHypothesis => exact inductionHypothesis present
  | any raw => exact present
  | _ => rfl

/-- Only what is empty is structured as a value without elements. -/
theorem Structures.isEmpty_of_size? {type : TypeExpr} {raw : Value} {value : Typed Payload}
    (structures : registry.Structures type raw value) (empty : value.size? = some 0) :
    raw = .string "" ∨ raw = .array [] ∨ raw = .map [] := by
  induction structures with
  | optional _ _ inductionHypothesis => exact inductionHypothesis empty
  | str text =>
      have noCharacter : text.length = 0 := Option.some.inj empty
      exact .inl (congrArg Value.string (String.length_eq_zero_iff.1 noCharacter))
  | @sequence item items valueOf _ _ =>
      have noItem : (items.map valueOf).length = 0 := Option.some.inj empty
      rw [List.length_map, List.length_eq_zero_iff] at noItem
      exact .inr (.inl (congrArg Value.array noItem))
  | @set item items valueOf _ _ =>
      have noItem : (Typed.keepDistinct [] (items.map valueOf)).length = 0 := Option.some.inj empty
      rw [Typed.length_keepDistinct_eq_zero_iff, List.map_eq_nil_iff] at noItem
      exact .inr (.inl (congrArg Value.array noItem))
  | @mapping type entries valueOf _ _ =>
      have noEntry : (Entries.mapValues valueOf entries).length = 0 := Option.some.inj empty
      rw [Entries.mapValues, List.length_map, List.length_eq_zero_iff] at noEntry
      exact .inr (.inr (congrArg Value.map noEntry))
  | _ => contradiction

end Registry

end Recast
