import Recast.Proofs.Typed.Parts

/-!
# Custom values in a typed value

The custom values in a typed value are listed in the order in which its parts are visited: items
and entries in their order, the fields of a record in theirs.  The list holds exactly the custom
values that occur in the value; kept entries and raw values hold none.
-/

namespace Recast.Typed

variable {Payload : Type}

mutual

/-- The custom values in the value, each by the name of its type and by what it holds. -/
def customs : Typed Payload → List (String × Payload)
  | .sequence items => itemsCustoms items
  | .set items => itemsCustoms items
  | .mapping entries => entriesCustoms entries
  | .record ⟨_, values, _, _⟩ => entriesCustoms values
  | .custom typeName payload => [(typeName, payload)]
  | _ => []

def itemsCustoms : List (Typed Payload) → List (String × Payload)
  | [] => []
  | item :: rest => item.customs ++ itemsCustoms rest

def entriesCustoms : List (String × Typed Payload) → List (String × Payload)
  | [] => []
  | (_, value) :: rest => value.customs ++ entriesCustoms rest

end

theorem itemsCustoms_eq_flatMap (items : List (Typed Payload)) :
    itemsCustoms items = items.flatMap customs := by
  induction items with
  | nil => rfl
  | cons item rest inductionHypothesis =>
      rw [itemsCustoms, inductionHypothesis, List.flatMap_cons]

theorem entriesCustoms_eq_flatMap (entries : Entries (Typed Payload)) :
    entriesCustoms entries = entries.flatMap fun entry => entry.2.customs := by
  induction entries with
  | nil => rfl
  | cons entry rest inductionHypothesis =>
      rw [entriesCustoms, inductionHypothesis, List.flatMap_cons]

/-- The custom value that the value itself is. -/
def ownCustom : Typed Payload → List (String × Payload)
  | .custom typeName payload => [(typeName, payload)]
  | _ => []

theorem mem_ownCustom_iff {typeName : String} {payload : Payload} (value : Typed Payload) :
    (typeName, payload) ∈ value.ownCustom ↔ .custom typeName payload = value := by
  cases value <;> simp [ownCustom]

/-- The custom values in a value are itself and those in its parts, one part after another. -/
theorem customs_eq (value : Typed Payload) :
    value.customs = value.ownCustom ++ value.parts.flatMap customs := by
  cases value with
  | sequence items => exact itemsCustoms_eq_flatMap items
  | set items => exact itemsCustoms_eq_flatMap items
  | mapping entries =>
      refine (entriesCustoms_eq_flatMap entries).trans ?_
      exact (List.flatMap_map Prod.snd customs entries).symm
  | record held =>
      refine (entriesCustoms_eq_flatMap held.values).trans ?_
      exact (List.flatMap_map Prod.snd customs held.values).symm
  | _ => rfl

/-- Exactly the custom values that occur in a value are listed. -/
theorem mem_customs_iff {typeName : String} {payload : Payload} (value : Typed Payload) :
    (typeName, payload) ∈ value.customs ↔ Occurs parts (.custom typeName payload) value := by
  induction value using partsInduction with
  | step value inductionHypothesis =>
      rw [customs_eq, List.mem_append, mem_ownCustom_iff, List.mem_flatMap,
        Occurs.iff_eq_or_exists]
      exact or_congr_right <| exists_congr fun part => and_congr_right fun member =>
        inductionHypothesis part member

end Recast.Typed
