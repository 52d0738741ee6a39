import Recast.Typed.Equality

/-!
# Items without equal ones among them

Keeping the first of equal items leaves a list in which no item equals a later one, and changes
nothing where that is so already.  Nothing is asked of equality here, so this also holds of items
that do not equal themselves.
-/

namespace Recast.Typed

variable {Payload : Type} [BEq Payload]

theorem allDistinct_iff (items : List (Typed Payload)) :
    allDistinct items = true ↔
      items.Pairwise fun earlier later => (earlier == later) = false := by
  induction items with
  | nil => simp [allDistinct]
  | cons first rest inductionHypothesis =>
      rw [allDistinct, Bool.and_eq_true, inductionHypothesis, List.pairwise_cons]
      simp

theorem mem_of_mem_keepDistinct {kept items : List (Typed Payload)} {item : Typed Payload}
    (member : item ∈ keepDistinct kept items) :
    item ∈ kept ∨ item ∈ items := by
  induction items generalizing kept with
  | nil => exact .inl member
  | cons first rest inductionHypothesis =>
      rw [keepDistinct] at member
      split at member
      · exact (inductionHypothesis member).imp_right (List.mem_cons_of_mem _)
      · rcases inductionHypothesis member with earlier | later
        · rcases List.mem_append.1 earlier with before | atFirst
          · exact .inl before
          · rw [List.mem_singleton.1 atFirst]
            exact .inr List.mem_cons_self
        · exact .inr (List.mem_cons_of_mem _ later)

/-- What is kept stays in front. -/
theorem prefix_keepDistinct (kept items : List (Typed Payload)) :
    kept <+: keepDistinct kept items := by
  induction items generalizing kept with
  | nil => exact List.prefix_rfl
  | cons first rest inductionHypothesis =>
      rw [keepDistinct]
      split
      · exact inductionHypothesis kept
      · exact (List.prefix_append kept [first]).trans (inductionHypothesis (kept ++ [first]))

/-- The first of all items is kept. -/
theorem length_keepDistinct_eq_zero_iff (items : List (Typed Payload)) :
    (keepDistinct [] items).length = 0 ↔ items = [] := by
  cases items with
  | nil => exact iff_of_true rfl rfl
  | cons first rest =>
      have firstKept : keepDistinct [] (first :: rest) = keepDistinct [first] rest := rfl
      have longer := (prefix_keepDistinct [first] rest).length_le
      rw [List.length_singleton] at longer
      rw [firstKept]
      exact iff_of_false (by omega) (List.cons_ne_nil first rest)

/-- What holds of all items holds of those that are kept. -/
theorem forall_mem_keepDistinct {holds : Typed Payload → Prop} {items : List (Typed Payload)}
    (each : ∀ item ∈ items, holds item) :
    ∀ item ∈ keepDistinct [] items, holds item := by
  intro item member
  rcases mem_of_mem_keepDistinct member with impossible | original
  · contradiction
  · exact each item original

/-- The kept items stay distinct with every item that is taken in. -/
theorem allDistinct_keepDistinct {kept : List (Typed Payload)}
    (distinct : allDistinct kept = true) (items : List (Typed Payload)) :
    allDistinct (keepDistinct kept items) = true := by
  induction items generalizing kept with
  | nil => exact distinct
  | cons first rest inductionHypothesis =>
      rw [keepDistinct]
      split
      · exact inductionHypothesis distinct
      · next fresh =>
          apply inductionHypothesis
          rw [allDistinct_iff] at distinct ⊢
          rw [List.pairwise_append]
          refine ⟨distinct, List.pairwise_singleton _ first, ?_⟩
          intro earlier member later laterMember
          rw [List.mem_singleton.1 laterMember]
          have noneEqual : ∀ other ∈ kept, (other == first) = false := by simpa using fresh
          exact noneEqual earlier member

/-- Where two forms of some items are equal for the same pairs, the same items are kept after those
that were kept before. -/
theorem exists_kept_append {ι : Type} {left right : ι → Typed Payload} {kept items : List ι}
    (samePairs : ∀ earlier ∈ kept ++ items, ∀ later ∈ kept ++ items,
      (left earlier == left later) = (right earlier == right later)) :
    ∃ result : List ι, (∀ item ∈ result, item ∈ kept ++ items) ∧
      keepDistinct (kept.map left) (items.map left) = result.map left ∧
      keepDistinct (kept.map right) (items.map right) = result.map right := by
  induction items generalizing kept with
  | nil => exact ⟨kept, fun item member => List.mem_append_left _ member, rfl, rfl⟩
  | cons first rest inductionHypothesis =>
      have firstMember : first ∈ kept ++ first :: rest := by simp
      have keptMember : ∀ item ∈ kept, item ∈ kept ++ first :: rest :=
        fun item member => List.mem_append_left _ member
      have sameTest : ((kept.map left).any fun earlier => earlier == left first) =
          (kept.map right).any fun earlier => earlier == right first := by
        rw [Bool.eq_iff_iff, List.any_map, List.any_map, List.any_eq_true, List.any_eq_true]
        refine exists_congr fun item => and_congr_right fun member => ?_
        rw [Function.comp_apply, Function.comp_apply,
          samePairs item (keptMember item member) first firstMember]
      rw [List.map_cons, List.map_cons, keepDistinct, keepDistinct, ← sameTest]
      split
      · have fewer : kept ++ rest ⊆ kept ++ first :: rest :=
          ((List.sublist_cons_self first rest).append_left kept).subset
        obtain ⟨result, within, keptLeft, keptRight⟩ := inductionHypothesis
          fun earlier earlierMember later laterMember =>
            samePairs earlier (fewer earlierMember) later (fewer laterMember)
        exact ⟨result, fun item member => fewer (within item member), keptLeft, keptRight⟩
      · have sameItems : (kept ++ [first]) ++ rest = kept ++ first :: rest := by simp
        rw [← sameItems] at samePairs ⊢
        obtain ⟨result, within, keptLeft, keptRight⟩ := inductionHypothesis samePairs
        rw [List.map_append] at keptLeft keptRight
        exact ⟨result, within, keptLeft, keptRight⟩

/-- Where two forms of some items are equal for the same pairs, the same items are kept. -/
theorem exists_kept {ι : Type} {left right : ι → Typed Payload} {items : List ι}
    (samePairs : ∀ earlier ∈ items, ∀ later ∈ items,
      (left earlier == left later) = (right earlier == right later)) :
    ∃ result : List ι, (∀ item ∈ result, item ∈ items) ∧
      keepDistinct [] (items.map left) = result.map left ∧
      keepDistinct [] (items.map right) = result.map right := by
  have fromNothing : ∀ earlier ∈ [] ++ items, ∀ later ∈ [] ++ items,
      (left earlier == left later) = (right earlier == right later) := samePairs
  exact exists_kept_append fromNothing

/-- Items that are distinct already are all kept. -/
theorem keepDistinct_eq_append {kept items : List (Typed Payload)}
    (distinct : allDistinct (kept ++ items) = true) :
    keepDistinct kept items = kept ++ items := by
  induction items generalizing kept with
  | nil => exact (List.append_nil kept).symm
  | cons first rest inductionHypothesis =>
      have fresh : (kept.any fun earlier => earlier == first) = false := by
        rw [allDistinct_iff, List.pairwise_append] at distinct
        rw [List.any_eq_false]
        intro earlier member
        simp [distinct.2.2 earlier member first List.mem_cons_self]
      rw [keepDistinct, if_neg (by simp [fresh]), inductionHypothesis]
      · simp
      · simpa using distinct

theorem keepDistinct_eq_self {items : List (Typed Payload)}
    (distinct : allDistinct items = true) :
    keepDistinct [] items = items := by
  have appended : allDistinct ([] ++ items) = true := distinct
  exact keepDistinct_eq_append appended

end Recast.Typed
