import Mathlib.Data.Multiset.AddSub
import Recast.Proofs.Typed.Equality

/-!
# Classes of equal items

Keeping the first of equal items compares an item only with those that were kept before it.  Since
equality is transitive, this is as good as comparing it with all items before it.  Since equality is
symmetric too, the order of the items decides which item of a class is kept, and not which classes
are.  An item that does not equal itself equals no other one either; it is a class of its own, each
time it occurs.
-/

namespace Recast.Typed

variable {Payload : Type} [BEq Payload]

/-- The items that equal none of `before` and no item in front of them. -/
def firstAfter (before items : List (Typed Payload)) : List (Typed Payload) :=
  (items.zipIdx.filter fun part =>
    !(before ++ items.take part.2).any fun earlier => earlier == part.1).map Prod.fst

/-- The items that no item in front of them equals, whether that one is kept or not. -/
def firstOccurrences (items : List (Typed Payload)) : List (Typed Payload) :=
  firstAfter [] items

theorem firstAfter_cons (before : List (Typed Payload)) (first : Typed Payload)
    (rest : List (Typed Payload)) :
    firstAfter before (first :: rest) =
      if before.any fun earlier => earlier == first then
        firstAfter (before ++ [first]) rest
      else
        first :: firstAfter (before ++ [first]) rest := by
  have later : ((rest.zipIdx 1).filter fun part =>
      !(before ++ (first :: rest).take part.2).any fun earlier => earlier == part.1).map Prod.fst =
        firstAfter (before ++ [first]) rest := by
    rw [List.zipIdx_succ, List.filter_map, List.map_map, firstAfter]
    simp [Function.comp_def]
  rw [firstAfter, List.zipIdx_cons, List.filter_cons, List.take_zero, List.append_nil, ← later]
  cases before.any fun earlier => earlier == first <;> rfl

/-- The items are of one class: one and the same, or equal. -/
def SameClass (left right : Typed Payload) : Prop :=
  left = right ∨ (left == right) = true

/-- The items match one to one, in whatever order, so that matching ones are of one class. -/
def SameClasses (left right : List (Typed Payload)) : Prop :=
  Multiset.Rel SameClass (left : Multiset (Typed Payload)) right

theorem SameClasses.of_perm {left right : List (Typed Payload)} (order : left.Perm right) :
    SameClasses left right := by
  rw [SameClasses, Multiset.coe_eq_coe.2 order]
  exact Multiset.rel_refl_of_refl_on fun _ _ => .inl rfl

theorem SameClasses.refl (items : List (Typed Payload)) : SameClasses items items :=
  .of_perm (.refl items)

theorem SameClasses.append_singleton {left right : List (Typed Payload)}
    {first second : Typed Payload} (same : SameClasses left right)
    (sameLast : SameClass first second) :
    SameClasses (left ++ [first]) (right ++ [second]) := by
  rw [SameClasses, ← Multiset.coe_add, ← Multiset.coe_add]
  exact Multiset.Rel.add same (.cons sameLast .zero)

theorem SameClasses.length_eq {left right : List (Typed Payload)}
    (same : SameClasses left right) :
    left.length = right.length :=
  Multiset.card_eq_card_of_rel same

/-! ## Taking one item in -/

/-- The kept items with one more, unless one of them equals it. -/
def keepNew (kept : List (Typed Payload)) (item : Typed Payload) : List (Typed Payload) :=
  if kept.any fun earlier => earlier == item then kept else kept ++ [item]

theorem keepDistinct_eq_foldl (kept items : List (Typed Payload)) :
    keepDistinct kept items = items.foldl keepNew kept := by
  induction items generalizing kept with
  | nil => rfl
  | cons first rest inductionHypothesis =>
      rw [keepDistinct, List.foldl_cons, keepNew]
      split <;> exact inductionHypothesis _

variable {kept others : List (Typed Payload)} {item : Typed Payload}

theorem keepNew_of_covered (covered : (kept.any fun earlier => earlier == item) = true) :
    keepNew kept item = kept :=
  if_pos covered

theorem keepNew_of_fresh (fresh : (kept.any fun earlier => earlier == item) = false) :
    keepNew kept item = kept ++ [item] :=
  if_neg (Bool.eq_false_iff.1 fresh)

theorem any_keepNew {other : Typed Payload}
    (covered : (kept.any fun earlier => earlier == other) = true) (item : Typed Payload) :
    ((keepNew kept item).any fun earlier => earlier == other) = true := by
  rw [keepNew]
  split
  · exact covered
  · rw [List.any_append, covered, Bool.true_or]

theorem wellFormed_keepNew (wellFormed : ∀ other ∈ kept, other.WellFormed)
    (itemWellFormed : item.WellFormed) :
    ∀ other ∈ keepNew kept item, other.WellFormed := by
  rw [keepNew]
  split
  · exact wellFormed
  · exact List.forall_mem_append.2 ⟨wellFormed, List.forall_mem_singleton.2 itemWellFormed⟩

variable [PartialEquivBEq Payload]

instance : IsTrans (Typed Payload) SameClass where
  trans := by
    rintro left middle right (rfl | sameLeft) (rfl | sameRight)
    · exact .inl rfl
    · exact .inr sameRight
    · exact .inr sameLeft
    · exact .inr (equal_trans sameLeft sameRight)

theorem SameClasses.trans {left middle right : List (Typed Payload)}
    (sameLeft : SameClasses left middle) (sameRight : SameClasses middle right) :
    SameClasses left right :=
  Multiset.Rel.trans SameClass sameLeft sameRight

theorem SameClass.beq_eq {left right : Typed Payload} (same : SameClass left right)
    (wellFormed : left.WellFormed) (item : Typed Payload) :
    (left == item) = (right == item) := by
  rcases same with rfl | same
  · rfl
  · rw [Bool.eq_iff_iff]
    exact ⟨equal_trans (equal_symm wellFormed same), equal_trans same⟩

/-- Kept items of the same classes cover the same items. -/
theorem SameClasses.any_beq_eq (same : SameClasses kept others)
    (wellFormed : ∀ earlier ∈ kept, earlier.WellFormed) (item : Typed Payload) :
    (kept.any fun earlier => earlier == item) = others.any fun earlier => earlier == item := by
  rw [Bool.eq_iff_iff, List.any_eq_true, List.any_eq_true]
  constructor
  · rintro ⟨earlier, member, equalsItem⟩
    obtain ⟨other, otherMember, sameClass⟩ := Multiset.exists_mem_of_rel_of_mem same member
    exact ⟨other, otherMember, sameClass.beq_eq (wellFormed earlier member) item ▸ equalsItem⟩
  · rintro ⟨other, otherMember, equalsItem⟩
    obtain ⟨earlier, member, sameClass⟩ :=
      Multiset.exists_mem_of_rel_of_mem (Multiset.rel_flip.2 same) otherMember
    exact ⟨earlier, member, sameClass.beq_eq (wellFormed earlier member) item ▸ equalsItem⟩

/-- Where the classes are the same, they are after one more item is taken in. -/
theorem SameClasses.keepNew (same : SameClasses kept others)
    (wellFormed : ∀ earlier ∈ kept, earlier.WellFormed) (item : Typed Payload) :
    SameClasses (keepNew kept item) (keepNew others item) := by
  rw [Typed.keepNew, Typed.keepNew, same.any_beq_eq wellFormed item]
  split
  · exact same
  · exact same.append_singleton (.inl rfl)

/-- Two items may be taken in in either order. -/
theorem sameClasses_keepNew_swap {first second : Typed Payload} (firstWellFormed : first.WellFormed)
    (secondWellFormed : second.WellFormed) (kept : List (Typed Payload)) :
    SameClasses (keepNew (keepNew kept first) second) (keepNew (keepNew kept second) first) := by
  cases firstKept : kept.any fun earlier => earlier == first with
  | true =>
      rw [keepNew_of_covered firstKept, keepNew_of_covered (any_keepNew firstKept second)]
      exact .refl _
  | false =>
      cases secondKept : kept.any fun earlier => earlier == second with
      | true =>
          rw [keepNew_of_covered secondKept, keepNew_of_covered (any_keepNew secondKept first)]
          exact .refl _
      | false =>
          have symmetric : (second == first) = (first == second) := by
            rw [Bool.eq_iff_iff]
            exact ⟨equal_symm secondWellFormed, equal_symm firstWellFormed⟩
          have behindFirst : ((kept ++ [first]).any fun earlier => earlier == second) =
              (first == second) := by
            rw [List.any_append, secondKept, Bool.false_or, List.any_cons, List.any_nil,
              Bool.or_false]
          have behindSecond : ((kept ++ [second]).any fun earlier => earlier == first) =
              (first == second) := by
            rw [List.any_append, firstKept, Bool.false_or, List.any_cons, List.any_nil,
              Bool.or_false, symmetric]
          rw [keepNew_of_fresh firstKept, keepNew_of_fresh secondKept]
          cases same : first == second with
          | true =>
              -- Only one of the two is kept, and it stands for the other.
              rw [keepNew_of_covered (behindFirst.trans same),
                keepNew_of_covered (behindSecond.trans same)]
              exact (SameClasses.refl kept).append_singleton (.inr same)
          | false =>
              have swapped : (kept ++ [first] ++ [second]).Perm (kept ++ [second] ++ [first]) := by
                rw [List.append_assoc, List.append_assoc]
                exact (List.Perm.swap second first []).append_left kept
              rw [keepNew_of_fresh (behindFirst.trans same),
                keepNew_of_fresh (behindSecond.trans same)]
              exact .of_perm swapped

/-! ## Taking all items in -/

/-- Where the classes are the same, they are after the same items are taken in. -/
theorem SameClasses.foldl_keepNew {items : List (Typed Payload)} (same : SameClasses kept others)
    (wellFormed : ∀ earlier ∈ kept, earlier.WellFormed)
    (itemsWellFormed : ∀ item ∈ items, item.WellFormed) :
    SameClasses (items.foldl Typed.keepNew kept) (items.foldl Typed.keepNew others) := by
  induction items generalizing kept others with
  | nil => exact same
  | cons first rest inductionHypothesis =>
      rw [List.forall_mem_cons] at itemsWellFormed
      exact inductionHypothesis (same.keepNew wellFormed first)
        (wellFormed_keepNew wellFormed itemsWellFormed.1) itemsWellFormed.2

/-- Rearranged items leave the same classes. -/
theorem sameClasses_foldl_keepNew {items rearranged : List (Typed Payload)}
    (order : items.Perm rearranged) (itemsWellFormed : ∀ item ∈ items, item.WellFormed)
    (wellFormed : ∀ earlier ∈ kept, earlier.WellFormed) :
    SameClasses (items.foldl keepNew kept) (rearranged.foldl keepNew kept) := by
  induction order generalizing kept with
  | nil => exact .refl _
  | cons first _ inductionHypothesis =>
      rw [List.forall_mem_cons] at itemsWellFormed
      exact inductionHypothesis itemsWellFormed.2
        (wellFormed_keepNew wellFormed itemsWellFormed.1)
  | swap first second rest =>
      obtain ⟨secondWellFormed, laterWellFormed⟩ := List.forall_mem_cons.1 itemsWellFormed
      obtain ⟨firstWellFormed, restWellFormed⟩ := List.forall_mem_cons.1 laterWellFormed
      exact (sameClasses_keepNew_swap secondWellFormed firstWellFormed kept).foldl_keepNew
        (wellFormed_keepNew (wellFormed_keepNew wellFormed secondWellFormed) firstWellFormed)
        restWellFormed
  | trans toMiddle _ fromItems fromMiddle =>
      refine (fromItems itemsWellFormed wellFormed).trans (fromMiddle ?_ wellFormed)
      exact fun item member => itemsWellFormed item (toMiddle.mem_iff.2 member)

/-! ## The items that are kept -/

/-- Where the kept items cover what all items before do, comparing with them is enough. -/
theorem keepDistinct_eq_append_firstAfter {before items : List (Typed Payload)}
    (covered : ∀ item ∈ items, (kept.any fun earlier => earlier == item) =
      before.any fun earlier => earlier == item) :
    keepDistinct kept items = kept ++ firstAfter before items := by
  induction items generalizing before kept with
  | nil => exact (List.append_nil kept).symm
  | cons first rest inductionHypothesis =>
      rw [List.forall_mem_cons] at covered
      obtain ⟨firstCovered, restCovered⟩ := covered
      rw [keepDistinct, firstAfter_cons, firstCovered]
      split
      · next present =>
          -- What equals the dropped item also equals the one that it was dropped for.
          refine inductionHypothesis fun item member => ?_
          rw [restCovered item member, List.any_append, Bool.eq_iff_iff, Bool.or_eq_true]
          refine (or_iff_left_of_imp fun same => ?_).symm
          rw [List.any_cons, List.any_nil, Bool.or_false] at same
          obtain ⟨earlier, earlierMember, sameFirst⟩ := List.any_eq_true.1 present
          exact List.any_eq_true.2 ⟨earlier, earlierMember, equal_trans sameFirst same⟩
      · have restTaken : keepDistinct (kept ++ [first]) rest =
            kept ++ [first] ++ firstAfter (before ++ [first]) rest :=
          inductionHypothesis fun item member => by
            rw [List.any_append, List.any_append, restCovered item member]
        rw [restTaken, List.append_assoc, List.singleton_append]

theorem keepDistinct_eq_firstOccurrences (items : List (Typed Payload)) :
    keepDistinct [] items = firstOccurrences items :=
  keepDistinct_eq_append_firstAfter fun _ _ => rfl

/-- No two kept items are equal, whichever of the two is on the left. -/
theorem pairwise_firstOccurrences {items : List (Typed Payload)}
    (wellFormed : ∀ item ∈ items, item.WellFormed) :
    (firstOccurrences items).Pairwise fun earlier later =>
      (earlier == later) = false ∧ (later == earlier) = false := by
  rw [← keepDistinct_eq_firstOccurrences]
  have distinct : allDistinct (keepDistinct [] items) = true := allDistinct_keepDistinct rfl items
  rw [allDistinct_iff] at distinct
  refine distinct.imp_of_mem fun _ laterMember different => ⟨different, ?_⟩
  rw [Bool.eq_false_iff] at different ⊢
  exact fun same => different (equal_symm (forall_mem_keepDistinct wellFormed _ laterMember) same)

omit [PartialEquivBEq Payload] in
theorem exists_mem_keepDistinct {items : List (Typed Payload)} (member : item ∈ items)
    (reflexive : (item == item) = true) (kept : List (Typed Payload)) :
    ∃ other ∈ keepDistinct kept items, (other == item) = true := by
  induction items generalizing kept with
  | nil => contradiction
  | cons first rest inductionHypothesis =>
      rw [keepDistinct]
      rcases List.mem_cons.1 member with rfl | later
      · split
        · next present =>
            obtain ⟨other, otherMember, same⟩ := List.any_eq_true.1 present
            exact ⟨other, (prefix_keepDistinct kept rest).subset otherMember, same⟩
        · have inFront := prefix_keepDistinct (kept ++ [item]) rest
          exact ⟨item, inFront.subset (List.mem_append_right kept List.mem_cons_self), reflexive⟩
      · split <;> exact inductionHypothesis later _

/-- An item that equals itself equals one that is kept. -/
theorem exists_mem_firstOccurrences {items : List (Typed Payload)}
    (wellFormed : ∀ item ∈ items, item.WellFormed) (member : item ∈ items)
    (reflexive : (item == item) = true) :
    ∃ other ∈ firstOccurrences items, (item == other) = true := by
  rw [← keepDistinct_eq_firstOccurrences]
  obtain ⟨other, otherMember, same⟩ := exists_mem_keepDistinct member reflexive []
  exact ⟨other, otherMember,
    equal_symm (forall_mem_keepDistinct wellFormed other otherMember) same⟩

/-- Of rearranged items, items of the same classes are kept. -/
theorem sameClasses_firstOccurrences {items rearranged : List (Typed Payload)}
    (order : items.Perm rearranged) (wellFormed : ∀ item ∈ items, item.WellFormed) :
    SameClasses (firstOccurrences items) (firstOccurrences rearranged) := by
  rw [← keepDistinct_eq_firstOccurrences, ← keepDistinct_eq_firstOccurrences,
    keepDistinct_eq_foldl, keepDistinct_eq_foldl]
  exact sameClasses_foldl_keepNew order wellFormed (List.forall_mem_nil _)

end Recast.Typed
