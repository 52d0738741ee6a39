import Recast.Proofs.Registry.Soundness

/-!
# Records over their lives

A record comes into being by structuring or by construction, and then fields are set and kept
entries are edited any number of times, also on copies of the records inside it.  `Reached` names
the records that a host can come by in this way.  All of them are regular: each way to come by a
record yields a regular one, and so does each step.
-/

namespace Recast

variable {Payload : Type} [BEq Payload]

/-- The record type was added to a registry by a declaration. -/
def RecordType.Declared (recordType : RecordType (Typed Payload)) : Prop :=
  ∃ (alphabet : Text.Alphabet) (registry : Registry Payload),
    registry.Built alphabet ∧ recordType ∈ registry.records

/-! ## Steps -/

inductive ExtrasEdit where
  | insert (key : String) (value : Value)
  | remove (key : String)
  /-- Give a key another value if it is there. -/
  | replace (key : String) (value : Value)
  | extend (pairs : List (String × Value))
  /-- Put other entries in the place of all. -/
  | assign (pairs : List (String × Value))

namespace ExtrasEdit

def apply : ExtrasEdit → Entries Value → Entries Value
  | .insert key value, extras => Entries.insert extras key value
  | .remove key, extras => Entries.erase extras key
  | .replace key value, extras =>
      if Entries.contains extras key then
        Entries.insert extras key value
      else
        extras
  | .extend pairs, extras => Entries.extend extras pairs
  | .assign pairs, _ => Entries.ofList pairs

/-- No map in the values that are brought in has a key twice. -/
def WellFormed : ExtrasEdit → Prop
  | .insert _ value => value.WellFormed
  | .remove _ => True
  | .replace _ value => value.WellFormed
  | .extend pairs => ∀ pair ∈ pairs, pair.2.WellFormed
  | .assign pairs => ∀ pair ∈ pairs, pair.2.WellFormed

theorem wellFormed_apply {edit : ExtrasEdit} (editWellFormed : edit.WellFormed)
    {extras : Entries Value} (wellFormed : (Value.map extras).WellFormed) :
    (Value.map (edit.apply extras)).WellFormed := by
  cases edit with
  | insert key value => exact Value.wellFormed_insert wellFormed key editWellFormed
  | remove key => exact Value.wellFormed_erase wellFormed key
  | replace key value =>
      rw [apply]
      split
      · exact Value.wellFormed_insert wellFormed key editWellFormed
      · exact wellFormed
  | extend pairs => exact Value.wellFormed_extend wellFormed editWellFormed
  | assign pairs =>
      have nothing : (Value.map []).WellFormed :=
        (Value.wellFormed_map_iff []).2 ⟨List.nodup_nil, by simp⟩
      exact Value.wellFormed_extend nothing editWellFormed

end ExtrasEdit

inductive Edit (Payload : Type) where
  | set (name : String) (value : Typed Payload)
  | extras (edit : ExtrasEdit)

/-- The record after the step.  A value that is refused leaves the record as it was. -/
def Record.perform (record : Record (Typed Payload)) : Edit Payload → Record (Typed Payload)
  | .set name value =>
      match record.set name value with
      | .ok (_, changed) => changed
      | .error _ => record
  | .extras edit => record.editExtras edit.apply

/-! ## Reached records -/

/-- The records that a host can come by.  Untyped values and mappings have no key twice, and the
records inside the values that are handed in were come by in the same way. -/
inductive Reached : Record (Typed Payload) → Prop
  /-- Read as a declared type, through the registry of the type or through another one. -/
  | structured {alphabet : Text.Alphabet} {registry : Registry Payload}
      {recordType : RecordType (Typed Payload)} {raw : Value} {record : Record (Typed Payload)} :
      registry.Built alphabet →
      recordType.Declared →
      raw.WellFormed →
      registry.structureWith recordType raw = .ok record →
      Reached record
  | constructed {recordType : RecordType (Typed Payload)} {supplied : Entries (Typed Payload)}
      {record : Record (Typed Payload)} :
      recordType.Declared →
      (∀ entry ∈ supplied, entry.2.WellFormed) →
      (∀ entry ∈ supplied, ∀ held, Occurs Typed.parts (.record held) entry.2 → Reached held) →
      recordType.construct supplied = .ok record →
      Reached record
  | set {record : Record (Typed Payload)} (name : String) {value : Typed Payload} :
      Reached record →
      value.WellFormed →
      (∀ held, Occurs Typed.parts (.record held) value → Reached held) →
      Reached (record.perform (.set name value))
  | extras {record : Record (Typed Payload)} {edit : ExtrasEdit} :
      Reached record →
      edit.WellFormed →
      Reached (record.perform (.extras edit))
  /-- Inside a value that was read as any type. -/
  | typed {alphabet : Text.Alphabet} {registry : Registry Payload} {type : TypeExpr} {raw : Value}
      {value : Typed Payload} {held : Record (Typed Payload)} :
      registry.Built alphabet →
      raw.WellFormed →
      registry.structureAs raw type = .ok value →
      Occurs Typed.parts (.record held) value →
      Reached held
  /-- Inside a declared default. -/
  | default {recordType : RecordType (Typed Payload)} {field : Field (Typed Payload)}
      {default : FieldDefault (Typed Payload)} {held : Record (Typed Payload)} :
      recordType.Declared →
      field ∈ recordType.fields →
      field.default? = some default →
      Occurs Typed.parts (.record held) default.typed →
      Reached held
  /-- Inside another record, as a copy. -/
  | held {record inner : Record (Typed Payload)} :
      Reached record →
      Occurs Typed.parts (.record inner) (.record record) →
      Reached inner

/-- A record that is read by the name of its type is reached. -/
theorem Reached.of_structureRecord {alphabet : Text.Alphabet} {registry : Registry Payload}
    (built : registry.Built alphabet) {name : String} {raw : Value} (wellFormed : raw.WellFormed)
    {record : Record (Typed Payload)}
    (structured : registry.structureRecord name raw = .ok record) :
    Reached record := by
  have read := (Registry.structureAs_record_iff registry name raw record).2 structured
  exact .typed built wellFormed read .self

/-- What the step brings in is what a host can hand in. -/
def Edit.Admissible : Edit Payload → Prop
  | .set _ value =>
      value.WellFormed ∧ ∀ held, Occurs Typed.parts (.record held) value → Reached held
  | .extras edit => edit.WellFormed

theorem Reached.perform {record : Record (Typed Payload)} (reached : Reached record)
    {edit : Edit Payload} (admissible : edit.Admissible) :
    Reached (record.perform edit) := by
  cases edit with
  | set name value =>
      obtain ⟨wellFormed, nested⟩ := admissible
      exact .set name reached wellFormed nested
  | extras edit => exact .extras reached admissible

/-- Any number of steps lead from a reached record to a reached record, whether or not the values
that are set are taken. -/
theorem Reached.run {record : Record (Typed Payload)} (reached : Reached record)
    {edits : List (Edit Payload)} (admissible : ∀ edit ∈ edits, edit.Admissible) :
    Reached (edits.foldl Record.perform record) := by
  induction edits generalizing record with
  | nil => exact reached
  | cons edit rest inductionHypothesis =>
      rw [List.forall_mem_cons] at admissible
      exact inductionHypothesis (reached.perform admissible.1) admissible.2

namespace Record

variable {record : Record (Typed Payload)}

/-- Setting a field keeps a record regular, whether the value is taken or refused. -/
theorem regular_perform_set (regular : (Typed.record record).Regular) (name : String)
    {value : Typed Payload}
    (valueRegular : ∀ field : Field (Typed Payload), field.Accepts value → value.Regular) :
    (Typed.record (record.perform (.set name value))).Regular := by
  rw [perform]
  split
  · next isSet => exact regular_of_set regular isSet valueRegular
  · exact regular

end Record

/-- Every reached record is regular, and so are all values in it. -/
theorem Reached.regular {record : Record (Typed Payload)} (reached : Reached record) :
    (Typed.record record).Regular := by
  induction reached with
  | structured built declared wellFormed structured =>
      obtain ⟨_, home, homeBuilt, member⟩ := declared
      exact Registry.regular_of_structureWith built.coherent homeBuilt.coherent
        (homeBuilt.coherent _ member) wellFormed structured
  | @constructed recordType supplied record declared wellFormed _ constructed nested =>
      obtain ⟨_, home, homeBuilt, member⟩ := declared
      have sound := homeBuilt.coherent recordType member
      apply RecordType.regular_of_construct sound.toWellDeclared _ _ constructed
      · exact fun field fieldMember default defaulted =>
          sound.default_admits_and_regular homeBuilt.coherent fieldMember defaulted
      · intro field value found accepted
        have entryMember := Entries.mem_of_lookup found
        exact Typed.regular_of_admits accepted.2 (wellFormed _ entryMember)
          (nested _ entryMember)
  | set name _ wellFormed _ regular nested =>
      exact Record.regular_perform_set regular name fun field accepted =>
        Typed.regular_of_admits accepted.2 wellFormed nested
  | extras _ wellFormed regular =>
      exact Record.regular_editExtras regular fun extras =>
        ExtrasEdit.wellFormed_apply wellFormed
  | typed built wellFormed structured occurs =>
      have structures := Registry.structures_of_ok built.coherent structured
      exact (structures.admits_and_regular built.coherent wellFormed).2.within occurs
  | default declared fieldMember defaulted occurs =>
      obtain ⟨_, home, homeBuilt, member⟩ := declared
      have sound := homeBuilt.coherent _ member
      exact (sound.default_admits_and_regular homeBuilt.coherent fieldMember
        defaulted).2.within occurs
  | held _ occurs regular => exact regular.within occurs

namespace Sample

/-- A pet with a key that its type does not declare, and without an age. -/
def petInput : Value :=
  .map [("collar", .bool true), ("name", .string "Tom"), ("tag", .string "T-1")]

def pet : Record (Typed String) where
  recordType := petType
  values := [("name", .str "Tom"), ("age", .int 1), ("tag", .custom "Tag" "T-1")]
  extras? := some [("collar", .bool true)]
  layout := ["collar", "name", "tag"]

theorem wellFormed_petInput : petInput.WellFormed := by
  simp [petInput, Value.WellFormed, Value.EntriesWellFormed]

theorem structureRecord_petInput : registry.structureRecord "Pet" petInput = .ok pet :=
  rfl

theorem reached_pet : Reached pet :=
  .of_structureRecord built_registry wellFormed_petInput structureRecord_petInput

end Sample

end Recast
