import Recast.Proofs.Typed.Equality

/-!
# Values without the key order of records

The key order that a record remembers is not compared.  Forgetting it, at every depth, leaves
equality as it is.
-/

namespace Recast.Typed

variable {Payload : Type}

mutual

/-- The value with no key order remembered in any record of it. -/
def withoutLayout : Typed Payload → Typed Payload
  | .sequence items => .sequence (itemsWithoutLayout items)
  | .set items => .set (itemsWithoutLayout items)
  | .mapping entries => .mapping (entriesWithoutLayout entries)
  | .record ⟨recordType, values, extras?, _⟩ =>
      .record ⟨recordType, entriesWithoutLayout values, extras?, []⟩
  | value => value

def itemsWithoutLayout : List (Typed Payload) → List (Typed Payload)
  | [] => []
  | item :: rest => item.withoutLayout :: itemsWithoutLayout rest

def entriesWithoutLayout : List (String × Typed Payload) → List (String × Typed Payload)
  | [] => []
  | (key, value) :: rest => (key, value.withoutLayout) :: entriesWithoutLayout rest

end

theorem itemsWithoutLayout_eq_map (items : List (Typed Payload)) :
    itemsWithoutLayout items = items.map withoutLayout := by
  induction items with
  | nil => rfl
  | cons item rest inductionHypothesis =>
      rw [itemsWithoutLayout, inductionHypothesis, List.map_cons]

theorem entriesWithoutLayout_eq_mapValues (entries : Entries (Typed Payload)) :
    entriesWithoutLayout entries = Entries.mapValues withoutLayout entries := by
  induction entries with
  | nil => rfl
  | cons entry rest inductionHypothesis =>
      rw [entriesWithoutLayout, inductionHypothesis]
      rfl

variable [BEq Payload]

/-- Equality does not depend on remembered key orders. -/
theorem equal_withoutLayout (left right : Typed Payload) :
    left.withoutLayout.equal right.withoutLayout = left.equal right := by
  induction left using partsInduction generalizing right with
  | step left inductionHypothesis =>
      have partIff : ∀ part ∈ left.parts, ∀ other,
          part.withoutLayout.equal other.withoutLayout = true ↔ part.equal other = true :=
        fun part member other => by rw [inductionHypothesis part member other]
      cases left with
      | sequence items =>
          cases right with
          | sequence others =>
              rw [withoutLayout, withoutLayout, Bool.eq_iff_iff, equal_sequence_iff,
                equal_sequence_iff, itemsWithoutLayout_eq_map, itemsWithoutLayout_eq_map]
              exact Entries.forall₂_map_iff partIff
          | _ => rfl
      | set items =>
          cases right with
          | set others =>
              rw [withoutLayout, withoutLayout, Bool.eq_iff_iff, equal_set_iff, equal_set_iff,
                itemsWithoutLayout_eq_map, itemsWithoutLayout_eq_map]
              exact Entries.forall₂_map_iff partIff
          | _ => rfl
      | mapping entries =>
          cases right with
          | mapping others =>
              rw [withoutLayout, withoutLayout, Bool.eq_iff_iff, equal_mapping_iff,
                equal_mapping_iff, entriesWithoutLayout_eq_mapValues,
                entriesWithoutLayout_eq_mapValues]
              exact Entries.Agree.mapValues_iff fun entry member =>
                partIff entry.2 (mem_parts_mapping member)
          | _ => rfl
      | record held =>
          cases right with
          | record other =>
              rw [withoutLayout, withoutLayout, Bool.eq_iff_iff, equal_record_iff,
                equal_record_iff, entriesWithoutLayout_eq_mapValues,
                entriesWithoutLayout_eq_mapValues]
              refine and_congr_right fun _ => and_congr_left fun _ => ?_
              exact Entries.Agree.mapValues_iff fun entry member =>
                partIff entry.2 (mem_parts_record member)
          | _ => rfl
      | _ => cases right <;> rfl

end Recast.Typed
