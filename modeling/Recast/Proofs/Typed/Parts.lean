import Recast.Proofs.Occurrence
import Recast.Typed.Basic

/-!
# Parts of typed values

The parts of a typed value are the items of a sequence or set, the values of a mapping and the
values of the fields of a record.  Kept entries and raw values are untyped and have no typed
parts; what is asked of them is asked of the value that holds them.
-/

namespace Recast.Typed

variable {Payload : Type}

/-- The values that a value is directly made of. -/
def parts : Typed Payload → List (Typed Payload)
  | .sequence items => items
  | .set items => items
  | .mapping entries => entries.map Prod.snd
  | .record held => held.values.map Prod.snd
  | _ => []

theorem mem_parts_mapping {entries : Entries (Typed Payload)} {entry : String × Typed Payload}
    (member : entry ∈ entries) :
    entry.2 ∈ (Typed.mapping entries).parts :=
  List.mem_map.2 ⟨entry, member, rfl⟩

theorem mem_parts_record {record : Record (Typed Payload)} {entry : String × Typed Payload}
    (member : entry ∈ record.values) :
    entry.2 ∈ (Typed.record record).parts :=
  List.mem_map.2 ⟨entry, member, rfl⟩

theorem sizeOf_lt_of_mem_parts {part whole : Typed Payload} (member : part ∈ whole.parts) :
    sizeOf part < sizeOf whole := by
  cases whole with
  | sequence items =>
      have smaller := List.sizeOf_lt_of_mem (show part ∈ items from member)
      rw [Typed.sequence.sizeOf_spec]
      omega
  | set items =>
      have smaller := List.sizeOf_lt_of_mem (show part ∈ items from member)
      rw [Typed.set.sizeOf_spec]
      omega
  | mapping entries =>
      obtain ⟨⟨key, value⟩, entryMember, rfl⟩ := List.mem_map.1 member
      have smaller := List.sizeOf_lt_of_mem entryMember
      rw [Prod.mk.sizeOf_spec] at smaller
      rw [Typed.mapping.sizeOf_spec]
      show sizeOf value < _
      omega
  | record held =>
      obtain ⟨recordType, values, extras?, layout⟩ := held
      obtain ⟨⟨key, value⟩, entryMember, rfl⟩ := List.mem_map.1 member
      have smaller := List.sizeOf_lt_of_mem (show (key, value) ∈ values from entryMember)
      rw [Prod.mk.sizeOf_spec] at smaller
      rw [Typed.record.sizeOf_spec, Record.mk.sizeOf_spec]
      show sizeOf value < _
      omega
  | _ => contradiction

/-- What passes from the parts of a value to the value holds of all values. -/
theorem partsInduction {motive : Typed Payload → Prop}
    (step : ∀ value, (∀ part ∈ value.parts, motive part) → motive value)
    (value : Typed Payload) :
    motive value :=
  step value fun part member =>
    have := sizeOf_lt_of_mem_parts member
    partsInduction step part
termination_by sizeOf value

/-! ## Conditions on all parts -/

variable {holds : Typed Payload → Prop}

theorem everywhere_sequence_iff (items : List (Typed Payload)) :
    Everywhere parts holds (.sequence items) ↔
      holds (.sequence items) ∧ ∀ item ∈ items, Everywhere parts holds item :=
  Everywhere.iff_and_forall _

theorem everywhere_set_iff (items : List (Typed Payload)) :
    Everywhere parts holds (.set items) ↔
      holds (.set items) ∧ ∀ item ∈ items, Everywhere parts holds item :=
  Everywhere.iff_and_forall _

theorem everywhere_mapping_iff (entries : Entries (Typed Payload)) :
    Everywhere parts holds (.mapping entries) ↔
      holds (.mapping entries) ∧ ∀ entry ∈ entries, Everywhere parts holds entry.2 := by
  rw [Everywhere.iff_and_forall, parts, List.forall_mem_map]

theorem everywhere_record_iff (record : Record (Typed Payload)) :
    Everywhere parts holds (.record record) ↔
      holds (.record record) ∧ ∀ entry ∈ record.values, Everywhere parts holds entry.2 := by
  rw [Everywhere.iff_and_forall, parts, List.forall_mem_map]

theorem everywhere_of_parts_eq_nil {value : Typed Payload} (plain : value.parts = []) :
    Everywhere parts holds value ↔ holds value := by
  rw [Everywhere.iff_and_forall, plain]
  simp

end Recast.Typed
