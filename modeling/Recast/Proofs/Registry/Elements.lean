import Recast.Proofs.Registry.Soundness
import Recast.Proofs.Typed.Classes

/-!
# Elements of sets

Of the elements of an array, a set takes the first of each class of equal ones.  Which classes it
takes, and so how many elements it has, does not depend on the order of the array.
-/

namespace Recast.Registry

variable {Payload : Type} [BEq Payload] [PartialEquivBEq Payload] {alphabet : Text.Alphabet}
  {registry : Registry Payload}

/-- An array whose elements can be structured is a set of those of them that no earlier one equals,
in their order.  No two of these are equal, and every element that equals itself equals one of them.
The rearranged array is a set of elements of the same classes, and of as many. -/
theorem set_keeps_first_of_each_class (built : registry.Built alphabet) {item : TypeExpr}
    {items : List Value} (wellFormed : (Value.array items).WellFormed)
    {valueOf : Value → Typed Payload}
    (structured : ∀ raw ∈ items, registry.structureAs raw item = .ok (valueOf raw)) :
    ∃ kept, registry.structureAs (.array items) (.set item) = .ok (.set kept) ∧
      kept = Typed.firstOccurrences (items.map valueOf) ∧
      (kept.Pairwise fun earlier later =>
        (earlier == later) = false ∧ (later == earlier) = false) ∧
      (∀ value ∈ items.map valueOf, (value == value) = true →
        ∃ other ∈ kept, (value == other) = true) ∧
      ∀ rearranged, items.Perm rearranged →
        ∃ keptOthers, registry.structureAs (.array rearranged) (.set item) = .ok (.set keptOthers) ∧
          Typed.SameClasses kept keptOthers ∧ kept.length = keptOthers.length := by
  rw [Value.wellFormed_array_iff] at wellFormed
  have valuesWellFormed : ∀ value ∈ items.map valueOf, value.WellFormed :=
    List.forall_mem_map.2 fun raw member =>
      ((structures_of_ok built.coherent (structured raw member)).regular built.coherent
        (wellFormed raw member)).wellFormed
  have read : ∀ others : List Value,
      (∀ raw ∈ others, registry.structureAs raw item = .ok (valueOf raw)) →
        registry.structureAs (.array others) (.set item) =
          .ok (.set (Typed.firstOccurrences (others.map valueOf))) := by
    intro others each
    rw [← Typed.keepDistinct_eq_firstOccurrences]
    exact (structureAs_set_eq_ok_iff registry item _ _).2 ⟨others, valueOf, rfl, each, rfl⟩
  refine ⟨_, read items structured, rfl, Typed.pairwise_firstOccurrences valuesWellFormed, ?_, ?_⟩
  · intro value member reflexive
    exact Typed.exists_mem_firstOccurrences valuesWellFormed member reflexive
  · intro rearranged order
    have same := Typed.sameClasses_firstOccurrences (order.map valueOf) valuesWellFormed
    refine ⟨_, read rearranged ?_, same, same.length_eq⟩
    exact fun raw member => structured raw (order.mem_iff.2 member)

end Recast.Registry

namespace Recast.Sample

/-- A list with a whole number, a NaN and a map, and the same in other forms. -/
def marks : List Value :=
  [.array [.integer 1], .float ⟨0x7ff8000000000000⟩, .map [("low", .integer 1), ("high", .null)],
    .array [.float ⟨0x3ff0000000000000⟩], .float ⟨0x7ff8000000000000⟩,
    .map [("high", .null), ("low", .integer 1)]]

def keptMarks : List (Typed Unit) :=
  (marks.take 3 ++ [Value.float ⟨0x7ff8000000000000⟩]).map .raw

theorem wellFormed_marks : (Value.array marks).WellFormed := by
  simp [marks, Value.WellFormed, Value.ItemsWellFormed, Value.EntriesWellFormed]

/-- The later forms are dropped, except for NaN, which equals nothing.  In reverse order the other
forms are kept. -/
theorem set_keeps_first_of_marks :
    ({} : Registry Unit).structureAs (.array marks) (.set .any) = .ok (.set keptMarks) ∧
      ∃ keptOthers,
        ({} : Registry Unit).structureAs (.array marks.reverse) (.set .any) =
            .ok (.set keptOthers) ∧
          Typed.SameClasses keptMarks keptOthers ∧ keptMarks.length = keptOthers.length := by
  have structured : ∀ raw ∈ marks,
      ({} : Registry Unit).structureAs raw .any = .ok (.raw raw) :=
    fun raw _ => Registry.structureAs_any {} raw
  have isKept : Typed.firstOccurrences (marks.map Typed.raw) = keptMarks := rfl
  have built : ({} : Registry Unit).Built Text.unicode := .empty
  obtain ⟨kept, read, rfl, _, _, ofOrder⟩ :=
    Registry.set_keeps_first_of_each_class built wellFormed_marks structured
  rw [isKept] at read ofOrder
  exact ⟨read, ofOrder marks.reverse marks.reverse_perm.symm⟩

end Recast.Sample
