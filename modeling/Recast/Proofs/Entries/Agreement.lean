import Mathlib.Data.List.Forall2
import Mathlib.Data.List.Perm.Subperm
import Recast.Entries.Lemmas

/-!
# Agreement of items in their order and of entries in any order

Two lists of entries agree when they are equally long and the second has, under each key of the
first, a value that is the same in a given sense.  Where keys are distinct, agreement inherits
reflexivity, symmetry and transitivity from that sense: symmetry because a list without repeated
keys that is found in another of its length leaves no key over.
-/

namespace Recast.Entries

variable {α β : Type}

/-! ## Looking up what is there -/

theorem mem_of_lookup {entries : Entries α} {key : String} {value : α}
    (found : entries.lookup key = some value) :
    (key, value) ∈ entries := by
  obtain ⟨before, after, split, _⟩ := List.lookup_eq_some_iff.1 found
  rw [split]
  exact List.mem_append_right before List.mem_cons_self

theorem key_mem {entries : Entries α} {key : String} {value : α}
    (member : (key, value) ∈ entries) :
    key ∈ keys entries :=
  List.mem_map.2 ⟨(key, value), member, rfl⟩

/-- Where keys are distinct, looking up a key finds its entry. -/
theorem lookup_of_mem {entries : Entries α} (distinct : (keys entries).Nodup)
    {key : String} {value : α} (member : (key, value) ∈ entries) :
    entries.lookup key = some value := by
  induction entries with
  | nil => contradiction
  | cons entry rest inductionHypothesis =>
      obtain ⟨first, firstValue⟩ := entry
      obtain ⟨fresh, distinctRest⟩ := List.nodup_cons.1 distinct
      rcases List.mem_cons.1 member with atFirst | later
      · cases atFirst
        simp
      · have different : key ≠ first := by
          rintro rfl
          exact fresh (key_mem later)
        rw [List.lookup_cons, beq_eq_false_iff_ne.2 different]
        exact inductionHypothesis distinctRest later

theorem exists_lookup_of_mem_keys {entries : Entries α} {key : String}
    (member : key ∈ keys entries) :
    ∃ value, entries.lookup key = some value :=
  Option.isSome_iff_exists.1 ((isSome_lookup_iff entries key).2 member)

theorem mem_of_mem_insert {entries : Entries α} {key : String} {value : α}
    {entry : String × α} (member : entry ∈ insert entries key value) :
    entry = (key, value) ∨ entry ∈ entries := by
  induction entries with
  | nil => exact .inl (List.mem_singleton.1 member)
  | cons first rest inductionHypothesis =>
      rw [insert] at member
      split at member
      · exact (List.mem_cons.1 member).imp_right (List.mem_cons_of_mem _)
      · rcases List.mem_cons.1 member with atFirst | later
        · exact .inr (atFirst ▸ List.mem_cons_self)
        · exact (inductionHypothesis later).imp_right (List.mem_cons_of_mem _)

theorem mem_of_mem_erase {entries : Entries α} {key : String} {entry : String × α}
    (member : entry ∈ erase entries key) :
    entry ∈ entries := by
  induction entries with
  | nil => exact member
  | cons first rest inductionHypothesis =>
      rw [erase] at member
      split at member
      · exact List.mem_cons_of_mem _ member
      · rcases List.mem_cons.1 member with atFirst | later
        · exact atFirst ▸ List.mem_cons_self
        · exact List.mem_cons_of_mem _ (inductionHypothesis later)

/-- Where keys are distinct, look-ups and the order of keys determine the entries. -/
theorem ext_of_keys {left right : Entries α} (distinct : (keys left).Nodup)
    (sameKeys : keys left = keys right)
    (sameValues : ∀ key ∈ keys left, left.lookup key = right.lookup key) :
    left = right := by
  induction left generalizing right with
  | nil =>
      cases right with
      | nil => rfl
      | cons entry rest => exact absurd sameKeys (List.cons_ne_nil _ _).symm
  | cons entry rest inductionHypothesis =>
      obtain ⟨first, value⟩ := entry
      cases right with
      | nil => simp at sameKeys
      | cons other others =>
          obtain ⟨otherFirst, otherValue⟩ := other
          obtain ⟨fresh, distinctRest⟩ := List.nodup_cons.1 distinct
          simp only [keys_cons, List.cons.injEq] at sameKeys
          obtain ⟨rfl, sameRest⟩ := sameKeys
          have sameFirst := sameValues first List.mem_cons_self
          simp only [List.lookup_cons_self, Option.some.injEq] at sameFirst
          have sameLater : rest = others := by
            apply inductionHypothesis distinctRest sameRest
            intro key member
            have different : (key == first) = false := by
              apply beq_eq_false_iff_ne.2
              rintro rfl
              exact fresh member
            have same := sameValues key (List.mem_cons_of_mem _ member)
            simpa only [List.lookup_cons, different] using same
          rw [sameFirst, sameLater]

/-! ## Agreement -/

/-- As many entries on both sides, and on the right, under each key of the left, a value that is
the same. -/
def Agree (same : α → β → Prop) (left : Entries α) (right : Entries β) : Prop :=
  left.length = right.length ∧
    ∀ entry ∈ left, ∃ other, right.lookup entry.1 = some other ∧ same entry.2 other

namespace Agree

theorem refl {same : α → α → Prop} {entries : Entries α} (distinct : (keys entries).Nodup)
    (reflexive : ∀ entry ∈ entries, same entry.2 entry.2) :
    Agree same entries entries :=
  ⟨rfl, fun entry member => ⟨entry.2, lookup_of_mem distinct member, reflexive entry member⟩⟩

/-- Where keys are distinct, entries agree with themselves exactly if each value is the same as
itself. -/
theorem self_iff {same : α → α → Prop} {entries : Entries α} (distinct : (keys entries).Nodup) :
    Agree same entries entries ↔ ∀ entry ∈ entries, same entry.2 entry.2 := by
  refine ⟨fun agree entry member => ?_, refl distinct⟩
  obtain ⟨other, found, sameValue⟩ := agree.2 entry member
  rw [lookup_of_mem distinct member, Option.some.injEq] at found
  rw [← found] at sameValue
  exact sameValue

/-- Entries agree with others that have the same keys, each once, and the same values. -/
theorem of_lookup {same : α → β → Prop} {left : Entries α} {right : Entries β}
    (distinctLeft : (keys left).Nodup) (distinctRight : (keys right).Nodup)
    (onlyThese : ∀ key ∈ keys right, key ∈ keys left)
    (found : ∀ entry ∈ left, ∃ other, right.lookup entry.1 = some other ∧ same entry.2 other) :
    Agree same left right := by
  refine ⟨?_, found⟩
  have allFound : ∀ key ∈ keys left, key ∈ keys right := by
    intro key member
    obtain ⟨entry, entryMember, rfl⟩ := List.mem_map.1 member
    obtain ⟨other, otherFound, _⟩ := found entry entryMember
    exact key_mem (mem_of_lookup otherFound)
  have permutation : (keys left).Perm (keys right) :=
    (List.perm_ext_iff_of_nodup distinctLeft distinctRight).2 fun key =>
      ⟨allFound key, onlyThese key⟩
  simpa only [keys, List.length_map] using permutation.length_eq

/-- Entries with the same look-ups agree, in whatever order they are. -/
theorem of_lookup_eq {same : α → α → Prop} {left right : Entries α}
    (distinctLeft : (keys left).Nodup) (distinctRight : (keys right).Nodup)
    (sameLookup : ∀ key, left.lookup key = right.lookup key)
    (reflexive : ∀ entry ∈ left, same entry.2 entry.2) :
    Agree same left right := by
  apply of_lookup distinctLeft distinctRight
  · intro key member
    rw [← isSome_lookup_iff, sameLookup, isSome_lookup_iff]
    exact member
  · intro entry member
    refine ⟨entry.2, ?_, reflexive entry member⟩
    rw [← sameLookup, lookup_of_mem distinctLeft member]

theorem mapValues_self {same : α → β → Prop} {change : α → β} {entries : Entries α}
    (distinct : (keys entries).Nodup) (each : ∀ entry ∈ entries, same entry.2 (change entry.2)) :
    Agree same entries (mapValues change entries) := by
  refine ⟨by rw [mapValues, List.length_map], ?_⟩
  intro entry member
  refine ⟨change entry.2, ?_, each entry member⟩
  rw [lookup_mapValues, lookup_of_mem distinct member, Option.map_some]

/-- Changed values agree with the original ones if each of them does. -/
theorem mapValues_left_iff {same : β → α → Prop} {change : α → β} {entries : Entries α}
    (distinct : (keys entries).Nodup) :
    Agree same (mapValues change entries) entries ↔
      ∀ entry ∈ entries, same (change entry.2) entry.2 := by
  constructor
  · intro agree entry member
    obtain ⟨value, found, sameValue⟩ := agree.2 _ (List.mem_map_of_mem member)
    rw [lookup_of_mem distinct member, Option.some.injEq] at found
    rw [← found] at sameValue
    exact sameValue
  · intro each
    refine ⟨List.length_map _, List.forall_mem_map.2 ?_⟩
    intro entry member
    exact ⟨entry.2, lookup_of_mem distinct member, each entry member⟩

/-- The keys of agreeing entries are the same up to order. -/
theorem keys_perm {same : α → β → Prop} {left : Entries α} {right : Entries β}
    (agree : Agree same left right) (distinct : (keys left).Nodup) :
    (keys left).Perm (keys right) := by
  have contained : keys left ⊆ keys right := by
    intro key member
    obtain ⟨entry, entryMember, rfl⟩ := List.mem_map.1 member
    obtain ⟨other, found, _⟩ := agree.2 entry entryMember
    exact key_mem (mem_of_lookup found)
  apply (distinct.subperm contained).perm_of_length_le
  simp only [keys, List.length_map, agree.1, Nat.le_refl]

theorem symm {same : α → β → Prop} {reverse : β → α → Prop} {left : Entries α}
    {right : Entries β} (agree : Agree same left right) (distinct : (keys left).Nodup)
    (turn : ∀ entry ∈ left, ∀ other, same entry.2 other → reverse other entry.2) :
    Agree reverse right left := by
  have permutation := agree.keys_perm distinct
  have distinctRight : (keys right).Nodup := permutation.nodup_iff.1 distinct
  refine ⟨agree.1.symm, ?_⟩
  rintro ⟨key, value⟩ member
  have keyLeft : key ∈ keys left := permutation.mem_iff.2 (key_mem member)
  obtain ⟨original, found⟩ := exists_lookup_of_mem_keys keyLeft
  have originalMember := mem_of_lookup found
  obtain ⟨other, otherFound, sameValue⟩ := agree.2 _ originalMember
  have otherIsValue : other = value := by
    rw [lookup_of_mem distinctRight member] at otherFound
    exact (Option.some.inj otherFound).symm
  subst otherIsValue
  exact ⟨original, found, turn _ originalMember _ sameValue⟩

theorem trans {γ : Type} {first : α → β → Prop} {second : β → γ → Prop} {both : α → γ → Prop}
    {left : Entries α} {middle : Entries β} {right : Entries γ}
    (agreeLeft : Agree first left middle) (agreeRight : Agree second middle right)
    (compose : ∀ entry ∈ left, ∀ between other,
      first entry.2 between → second between other → both entry.2 other) :
    Agree both left right := by
  refine ⟨agreeLeft.1.trans agreeRight.1, ?_⟩
  intro entry member
  obtain ⟨between, betweenFound, sameLeft⟩ := agreeLeft.2 entry member
  obtain ⟨other, otherFound, sameRight⟩ := agreeRight.2 _ (mem_of_lookup betweenFound)
  exact ⟨other, otherFound, compose entry member between other sameLeft sameRight⟩

theorem imp {same weaker : α → β → Prop} {left : Entries α} {right : Entries β}
    (agree : Agree same left right)
    (weaken : ∀ value other, same value other → weaker value other) :
    Agree weaker left right := by
  refine ⟨agree.1, fun entry member => ?_⟩
  obtain ⟨other, found, sameValue⟩ := agree.2 entry member
  exact ⟨other, found, weaken entry.2 other sameValue⟩

/-- What holds alike of agreeing values holds of all values on one side if it does on the other. -/
theorem forall_mem_iff {holds : α → Prop} {holdsToo : β → Prop} {left : Entries α}
    {right : Entries β} (agree : Agree (fun value other => holds value ↔ holdsToo other) left right)
    (distinct : (keys left).Nodup) :
    (∀ entry ∈ left, holds entry.2) ↔ ∀ entry ∈ right, holdsToo entry.2 := by
  have back : Agree (fun other value => holdsToo other ↔ holds value) right left :=
    agree.symm distinct fun _ _ _ same => same.symm
  constructor
  · intro each entry member
    obtain ⟨value, found, same⟩ := back.2 entry member
    exact same.2 (each _ (mem_of_lookup found))
  · intro each entry member
    obtain ⟨other, found, same⟩ := agree.2 entry member
    exact same.2 (each _ (mem_of_lookup found))

/-- A key is on both sides or on neither. -/
theorem lookup_cases {same : α → β → Prop} {left : Entries α} {right : Entries β}
    (agree : Agree same left right) (distinct : (keys left).Nodup) (key : String) :
    (left.lookup key = none ∧ right.lookup key = none) ∨
      ∃ value other, left.lookup key = some value ∧ right.lookup key = some other ∧
        same value other := by
  cases found : left.lookup key with
  | none =>
      rw [lookup_eq_none_iff, (agree.keys_perm distinct).mem_iff] at found
      exact .inl ⟨rfl, (lookup_eq_none_iff right key).2 found⟩
  | some value =>
      obtain ⟨other, otherFound, sameValue⟩ := agree.2 _ (mem_of_lookup found)
      exact .inr ⟨value, other, rfl, otherFound, sameValue⟩

/-- Entries agree exactly if they have the same keys, and under each key values that are the
same. -/
theorem iff_same_keys {same : α → β → Prop} {left : Entries α} {right : Entries β}
    (distinctLeft : (keys left).Nodup) (distinctRight : (keys right).Nodup) :
    Agree same left right ↔
      (∀ key, key ∈ keys left ↔ key ∈ keys right) ∧
        ∀ key value other, left.lookup key = some value → right.lookup key = some other →
          same value other := by
  constructor
  · intro agree
    refine ⟨fun key => (agree.keys_perm distinctLeft).mem_iff, ?_⟩
    intro key value other found otherFound
    obtain ⟨present, presentFound, sameValue⟩ := agree.2 _ (mem_of_lookup found)
    rw [otherFound, Option.some.injEq] at presentFound
    rw [presentFound]
    exact sameValue
  · rintro ⟨sameKeys, sameValues⟩
    refine .of_lookup distinctLeft distinctRight (fun key => (sameKeys key).2) ?_
    rintro ⟨key, value⟩ member
    obtain ⟨other, found⟩ := exists_lookup_of_mem_keys ((sameKeys key).1 (key_mem member))
    exact ⟨other, found, sameValues key value other (lookup_of_mem distinctLeft member) found⟩

/-- Changed values agree if changing makes them the same. -/
theorem mapValues_of_same {γ δ : Type} {same : α → β → Prop} {changed : γ → δ → Prop}
    {left : Entries α} {right : Entries β} {changeLeft : α → γ} {changeRight : β → δ}
    (agree : Agree same left right)
    (change : ∀ entry ∈ left, ∀ other ∈ right, same entry.2 other.2 →
      changed (changeLeft entry.2) (changeRight other.2)) :
    Agree changed (mapValues changeLeft left) (mapValues changeRight right) := by
  refine ⟨by simpa [mapValues] using agree.1, ?_⟩
  rw [mapValues, List.forall_mem_map]
  intro entry member
  obtain ⟨other, found, sameValue⟩ := agree.2 entry member
  refine ⟨changeRight other, ?_, change entry member (entry.1, other) (mem_of_lookup found)
    sameValue⟩
  rw [lookup_mapValues, found, Option.map_some]

/-- Changing values on both sides does not change agreement if it does not change sameness. -/
theorem mapValues_iff {γ δ : Type} {same : α → β → Prop} {changed : γ → δ → Prop}
    {left : Entries α} {right : Entries β} {changeLeft : α → γ} {changeRight : β → δ}
    (iff : ∀ entry ∈ left, ∀ other,
      changed (changeLeft entry.2) (changeRight other) ↔ same entry.2 other) :
    Agree changed (mapValues changeLeft left) (mapValues changeRight right) ↔
      Agree same left right := by
  rw [Agree, Agree, mapValues, mapValues, List.length_map, List.length_map, List.forall_mem_map]
  refine and_congr_right fun _ => forall₂_congr fun entry member => ?_
  change (∃ other, (mapValues changeRight right).lookup entry.1 = some other ∧ _) ↔ _
  rw [lookup_mapValues]
  constructor
  · rintro ⟨_, found, sameChanged⟩
    obtain ⟨other, otherFound, rfl⟩ := Option.map_eq_some_iff.1 found
    exact ⟨other, otherFound, (iff entry member other).1 sameChanged⟩
  · rintro ⟨other, found, sameValue⟩
    exact ⟨_, Option.map_eq_some_iff.2 ⟨other, found, rfl⟩, (iff entry member other).2 sameValue⟩

/-- What holds of all values on the left may be taken to be part of what is the same. -/
theorem and_left {same : α → β → Prop} {holds : α → Prop} {left : Entries α} {right : Entries β}
    (agree : Agree same left right) (each : ∀ entry ∈ left, holds entry.2) :
    Agree (fun value other => holds value ∧ same value other) left right := by
  refine ⟨agree.1, fun entry member => ?_⟩
  obtain ⟨other, found, sameValue⟩ := agree.2 entry member
  exact ⟨other, found, each entry member, sameValue⟩

/-- A key is on both sides, under values that are the same, or on neither. -/
theorem rel_lookup {same : α → β → Prop} {left : Entries α} {right : Entries β}
    (agree : Agree same left right) (distinct : (keys left).Nodup) (key : String) :
    Option.Rel same (left.lookup key) (right.lookup key) := by
  rcases agree.lookup_cases distinct key with
    ⟨absent, otherAbsent⟩ | ⟨value, other, found, otherFound, sameValue⟩
  · rw [absent, otherAbsent]
    exact .none
  · rw [found, otherFound]
    exact .some sameValue

/-- Entries agree exactly if their look-ups do. -/
theorem iff_rel_lookup {same : α → β → Prop} {left : Entries α} {right : Entries β}
    (distinctLeft : (keys left).Nodup) (distinctRight : (keys right).Nodup) :
    Agree same left right ↔ ∀ key, Option.Rel same (left.lookup key) (right.lookup key) := by
  constructor
  · exact fun agree => agree.rel_lookup distinctLeft
  · intro related
    refine .of_lookup distinctLeft distinctRight ?_ ?_
    · intro key member
      obtain ⟨other, found⟩ := exists_lookup_of_mem_keys member
      have relatedHere := related key
      rw [found] at relatedHere
      cases present : left.lookup key with
      | none =>
          rw [present] at relatedHere
          cases relatedHere
      | some value => exact key_mem (mem_of_lookup present)
    · rintro ⟨key, value⟩ member
      have relatedHere := related key
      rw [lookup_of_mem distinctLeft member] at relatedHere
      cases present : right.lookup key with
      | none =>
          rw [present] at relatedHere
          cases relatedHere
      | some other =>
          rw [present] at relatedHere
          cases relatedHere with
          | some sameValue => exact ⟨other, rfl, sameValue⟩

/-- Entries that agree still do when a key is given values that are the same. -/
theorem insert {same : α → β → Prop} {left : Entries α} {right : Entries β}
    (agree : Agree same left right) (distinctLeft : (keys left).Nodup)
    (distinctRight : (keys right).Nodup) (key : String) {value : α} {other : β}
    (sameValue : same value other) :
    Agree same (Entries.insert left key value) (Entries.insert right key other) := by
  refine (iff_rel_lookup (nodup_keys_insert distinctLeft key value)
    (nodup_keys_insert distinctRight key other)).2 fun lookedUp => ?_
  rw [lookup_insert, lookup_insert]
  split
  · exact .some sameValue
  · exact agree.rel_lookup distinctLeft lookedUp

/-- Entries that agree still do when a key is taken out of both. -/
theorem erase {same : α → β → Prop} {left : Entries α} {right : Entries β}
    (agree : Agree same left right) (distinctLeft : (keys left).Nodup)
    (distinctRight : (keys right).Nodup) (key : String) :
    Agree same (Entries.erase left key) (Entries.erase right key) := by
  refine (iff_rel_lookup (nodup_keys_erase distinctLeft key)
    (nodup_keys_erase distinctRight key)).2 fun lookedUp => ?_
  rw [lookup_erase distinctLeft, lookup_erase distinctRight]
  split
  · exact .none
  · exact agree.rel_lookup distinctLeft lookedUp

end Agree

/-! ## Item by item -/

/-- Changing items on both sides does not change sameness item by item if it does not change
sameness of items. -/
theorem forall₂_map_iff {γ δ : Type} {same : α → β → Prop} {changed : γ → δ → Prop}
    {left : List α} {right : List β} {changeLeft : α → γ} {changeRight : β → δ}
    (iff : ∀ item ∈ left, ∀ other,
      changed (changeLeft item) (changeRight other) ↔ same item other) :
    List.Forall₂ changed (left.map changeLeft) (right.map changeRight) ↔
      List.Forall₂ same left right := by
  induction left generalizing right with
  | nil => cases right <;> simp
  | cons item rest inductionHypothesis =>
      cases right with
      | nil => simp
      | cons other others =>
          rw [List.forall_mem_cons] at iff
          simp only [List.map_cons, List.forall₂_cons]
          rw [iff.1 other, inductionHypothesis iff.2]

/-- Items that are the same item by item may be taken to be members of their lists. -/
theorem forall₂_mem {same : α → β → Prop} {left : List α} {right : List β}
    (agree : List.Forall₂ same left right) :
    List.Forall₂ (fun item other => item ∈ left ∧ other ∈ right ∧ same item other) left right := by
  induction agree with
  | nil => exact .nil
  | cons atFirst _ inductionHypothesis =>
      refine .cons ⟨List.mem_cons_self, List.mem_cons_self, atFirst⟩ (inductionHypothesis.imp ?_)
      exact fun _ _ both =>
        ⟨List.mem_cons_of_mem _ both.1, List.mem_cons_of_mem _ both.2.1, both.2.2⟩

/-- What holds of items that are the same item by item holds of all of both lists or of not all of
either. -/
theorem forall_mem_iff_of_forall₂ {holds : α → Prop} {holdsToo : β → Prop} {left : List α}
    {right : List β} (agree : List.Forall₂ (fun item other => holds item ↔ holdsToo other)
      left right) :
    (∀ item ∈ left, holds item) ↔ ∀ other ∈ right, holdsToo other := by
  induction agree with
  | nil => simp
  | cons atFirst _ inductionHypothesis =>
      rw [List.forall_mem_cons, List.forall_mem_cons, atFirst, inductionHypothesis]

/-- Every item on the right is the same as one on the left. -/
theorem exists_of_forall₂ {same : α → β → Prop} {left : List α} {right : List β}
    (agree : List.Forall₂ same left right) {other : β} (member : other ∈ right) :
    ∃ item ∈ left, same item other := by
  induction agree with
  | nil => contradiction
  | @cons item first rest others sameFirst _ inductionHypothesis =>
      rcases List.mem_cons.1 member with rfl | later
      · exact ⟨item, List.mem_cons_self, sameFirst⟩
      · obtain ⟨laterItem, laterMember, sameLater⟩ := inductionHypothesis later
        exact ⟨laterItem, List.mem_cons_of_mem _ laterMember, sameLater⟩

/-- Sameness item by item turns around where sameness of items does. -/
theorem forall₂_symm {same : α → β → Prop} {reverse : β → α → Prop} {left : List α}
    {right : List β} (agree : List.Forall₂ same left right)
    (turn : ∀ item ∈ left, ∀ other, same item other → reverse other item) :
    List.Forall₂ reverse right left := by
  induction agree with
  | nil => exact .nil
  | @cons item other rest others sameFirst _ inductionHypothesis =>
      refine .cons (turn item List.mem_cons_self other sameFirst) (inductionHypothesis ?_)
      exact fun later member => turn later (List.mem_cons_of_mem _ member)

/-- Sameness item by item composes where sameness of items does. -/
theorem forall₂_trans {γ : Type} {first : α → β → Prop} {second : β → γ → Prop}
    {both : α → γ → Prop} {left : List α} {middle : List β} {right : List γ}
    (agreeLeft : List.Forall₂ first left middle) (agreeRight : List.Forall₂ second middle right)
    (compose : ∀ item ∈ left, ∀ between other,
      first item between → second between other → both item other) :
    List.Forall₂ both left right := by
  induction agreeLeft generalizing right with
  | nil =>
      cases agreeRight
      exact .nil
  | @cons item between rest others sameFirst _ inductionHypothesis =>
      cases agreeRight with
      | cons sameSecond laterSecond =>
          refine .cons (compose item List.mem_cons_self between _ sameFirst sameSecond)
            (inductionHypothesis laterSecond ?_)
          exact fun later member => compose later (List.mem_cons_of_mem _ member)

end Recast.Entries
