import Recast.Proofs.Value.Equality

/-!
# Values that differ in the order of keys only

Two untyped values are the same but for the order of entries when their arrays are so item by
item, when their maps have the same keys with such values under each, and when they are identical
everywhere else.  This is finer than equality: an integer is never the same as a floating-point
number.
-/

namespace Recast.Value

mutual

/-- The same value, with the entries of maps at any depth in another order perhaps. -/
def SameButOrder : Value → Value → Prop
  | .array left, .array right => ItemsSameButOrder left right
  | .map left, .map right => left.length = right.length ∧ EntriesSameButOrder left right
  | left, right => left = right

def ItemsSameButOrder : List Value → List Value → Prop
  | [], [] => True
  | left :: leftRest, right :: rightRest =>
      left.SameButOrder right ∧ ItemsSameButOrder leftRest rightRest
  | _, _ => False

/-- The others have, for every entry, the same value but for order. -/
def EntriesSameButOrder : List (String × Value) → List (String × Value) → Prop
  | [], _ => True
  | (key, value) :: rest, others =>
      (∃ other, others.lookup key = some other ∧ value.SameButOrder other) ∧
        EntriesSameButOrder rest others

end

theorem sameButOrder_array_iff (left right : List Value) :
    (Value.array left).SameButOrder (.array right) ↔ List.Forall₂ SameButOrder left right := by
  rw [SameButOrder]
  induction left generalizing right with
  | nil => cases right <;> simp [ItemsSameButOrder]
  | cons first rest inductionHypothesis =>
      cases right with
      | nil => simp [ItemsSameButOrder]
      | cons second others => simp [ItemsSameButOrder, inductionHypothesis]

theorem entriesSameButOrder_iff (left right : Entries Value) :
    EntriesSameButOrder left right ↔
      ∀ entry ∈ left, ∃ other,
        right.lookup entry.1 = some other ∧ entry.2.SameButOrder other := by
  induction left with
  | nil => simp [EntriesSameButOrder]
  | cons entry rest inductionHypothesis =>
      rw [EntriesSameButOrder, List.forall_mem_cons, inductionHypothesis]

theorem sameButOrder_map_iff (left right : Entries Value) :
    (Value.map left).SameButOrder (.map right) ↔ Entries.Agree SameButOrder left right := by
  rw [SameButOrder, entriesSameButOrder_iff]
  rfl

namespace SameButOrder

variable {left right : Value}

theorem refl (wellFormed : left.WellFormed) : left.SameButOrder left := by
  induction left using partsInduction with
  | step left inductionHypothesis =>
      cases left with
      | array items =>
          rw [wellFormed_array_iff] at wellFormed
          rw [sameButOrder_array_iff, List.forall₂_same]
          exact fun item member => inductionHypothesis item member (wellFormed item member)
      | map entries =>
          obtain ⟨distinct, each⟩ := (wellFormed_map_iff entries).1 wellFormed
          rw [sameButOrder_map_iff]
          exact .refl distinct fun entry member =>
            inductionHypothesis entry.2 (mem_parts_map member) (each entry member)
      | _ => rfl

/-- Entries in another order make the same map but for order. -/
theorem of_perm {entries others : Entries Value} (wellFormed : (Value.map entries).WellFormed)
    (permutation : entries.Perm others) :
    (Value.map entries).SameButOrder (.map others) := by
  obtain ⟨distinct, each⟩ := (wellFormed_map_iff entries).1 wellFormed
  have distinctOthers : (Entries.keys others).Nodup :=
    (permutation.map Prod.fst).nodup_iff.1 distinct
  refine (sameButOrder_map_iff entries others).2 ⟨permutation.length_eq, fun entry member => ?_⟩
  exact ⟨entry.2, Entries.lookup_of_mem distinctOthers (permutation.mem_iff.1 member),
    refl (each entry member)⟩

/-- Where the order is that of maps inside two containers, these are containers of one kind. -/
theorem cases (same : left.SameButOrder right) :
    left = right ∨
      (∃ items others, left = .array items ∧ right = .array others ∧
        List.Forall₂ SameButOrder items others) ∨
      ∃ entries others, left = .map entries ∧ right = .map others ∧
        Entries.Agree SameButOrder entries others := by
  cases left with
  | array items =>
      cases right with
      | array others =>
          exact .inr (.inl ⟨items, others, rfl, rfl, (sameButOrder_array_iff items others).1 same⟩)
      | _ => exact .inl same
  | map entries =>
      cases right with
      | map others =>
          have agree := (sameButOrder_map_iff entries others).1 same
          exact .inr (.inr ⟨entries, others, rfl, rfl, agree⟩)
      | _ => exact .inl same
  | _ => exact .inl same

theorem isNull_eq (same : left.SameButOrder right) : left.isNull = right.isNull := by
  rcases same.cases with rfl | ⟨_, _, rfl, rfl, _⟩ | ⟨_, _, rfl, rfl, _⟩ <;> rfl

end SameButOrder

/-- There is something in the value: it is not `null`, no empty text and no empty container. -/
def IsFilled (value : Value) : Prop :=
  value.isNull = false ∧ ¬ (value = .string "" ∨ value = .array [] ∨ value = .map [])

/-- Values in which there is nothing have no order. -/
theorem SameButOrder.eq_or_isFilled {left right : Value} (same : left.SameButOrder right) :
    left = right ∨ left.IsFilled ∧ right.IsFilled := by
  rcases same.cases with rfl | ⟨items, others, rfl, rfl, each⟩ | ⟨entries, others, rfl, rfl, agree⟩
  · exact .inl rfl
  · cases each with
    | nil => exact .inl rfl
    | cons => exact .inr ⟨⟨rfl, by simp⟩, ⟨rfl, by simp⟩⟩
  · have sameLength := agree.1
    cases entries with
    | nil =>
        rw [List.length_nil, eq_comm, List.length_eq_zero_iff] at sameLength
        rw [sameLength]
        exact .inl rfl
    | cons =>
        cases others with
        | nil => contradiction
        | cons => exact .inr ⟨⟨rfl, by simp⟩, ⟨rfl, by simp⟩⟩

end Recast.Value
