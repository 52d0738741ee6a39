import Recast.Proofs.Typed.Parts
import Recast.Typed.Admission

/-!
# What a type admits

For each form of type, the form of the values that it admits and what it asks of their parts.
-/

namespace Recast.TypeExpr

variable {Payload : Type} [BEq Payload]

theorem admits_optional_iff (inner : TypeExpr) (value : Typed Payload) :
    (TypeExpr.optional inner).admits value = true ↔
      value = .missing ∨ inner.admits value = true := by
  cases value <;> simp [admits]

theorem admits_any_iff (value : Typed Payload) :
    TypeExpr.any.admits value = true ↔ ∃ raw, value = .raw raw := by
  cases value <;> simp [admits]

theorem admits_sequence_iff (item : TypeExpr) (value : Typed Payload) :
    (TypeExpr.sequence item).admits value = true ↔
      ∃ items, value = .sequence items ∧ ∀ part ∈ items, item.admits part = true := by
  cases value <;> simp [admits]

theorem admits_set_iff (item : TypeExpr) (value : Typed Payload) :
    (TypeExpr.set item).admits value = true ↔
      ∃ items, value = .set items ∧ (∀ part ∈ items, item.admits part = true) ∧
        Typed.allDistinct items = true := by
  cases value <;> simp [admits]

theorem admits_mapping_iff (key type : TypeExpr) (value : Typed Payload) :
    (TypeExpr.mapping key type).admits value = true ↔
      ∃ entries, value = .mapping entries ∧ ∀ entry ∈ entries, type.admits entry.2 = true := by
  cases value <;> simp [admits]

theorem admits_record_iff (name : String) (value : Typed Payload) :
    (TypeExpr.record name).admits value = true ↔
      ∃ held, value = .record held ∧ held.typeName = name := by
  cases value <;> simp [admits]

theorem admits_custom_iff (name : String) (value : Typed Payload) :
    (TypeExpr.custom name).admits value = true ↔ ∃ payload, value = .custom name payload := by
  cases value <;> simp [admits]

/-- What is checked for emptiness has a size. -/
theorem exists_size_of_admits {type : TypeExpr} {value : Typed Payload}
    (checked : Validator.compile type = some .nonEmpty) (admitted : type.admits value = true) :
    ∃ size, value.size? = some size := by
  cases type with
  | scalar kind =>
      cases kind with
      | str =>
          cases value <;> try contradiction
          exact ⟨_, rfl⟩
      | _ => simp [Validator.compile] at checked
  | sequence item =>
      obtain ⟨items, rfl, _⟩ := (admits_sequence_iff item value).1 admitted
      exact ⟨items.length, rfl⟩
  | set item =>
      obtain ⟨items, rfl, _⟩ := (admits_set_iff item value).1 admitted
      exact ⟨items.length, rfl⟩
  | mapping key type =>
      obtain ⟨entries, rfl, _⟩ := (admits_mapping_iff key type value).1 admitted
      exact ⟨entries.length, rfl⟩
  | _ => simp [Validator.compile] at checked

end Recast.TypeExpr
