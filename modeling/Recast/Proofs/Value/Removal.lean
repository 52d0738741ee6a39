import Recast.Proofs.Entries.Arrangement
import Recast.Proofs.Value.Writing

/-!
# Laws of removal along a path

What is taken out is what was read there.  The container that held it loses that entry and nothing
else, and around the container the tree stays as it was.  Taking out what a write has just added
leads back to the tree before the write, as long as the write made no map on its way.
-/

namespace Recast

namespace Value

variable {value child container : Value} {component last : String}

/-! ## One step -/

/-- What is left of a container without the entry of the component. -/
def withoutChild (component : String) : Value → Value
  | .map entries => .map (Entries.erase entries component)
  | .array items => .array (((Text.indexValue? component).map items.eraseIdx).getD items)
  | value => value

/-- What is taken out below one step is what is found there. -/
theorem takeChild?_eq (component : String) (value : Value) :
    value.takeChild? component =
      (value.child? component).map fun removed => (removed, value.withoutChild component) := by
  cases value with
  | map entries =>
      rw [takeChild?, Entries.takeOut?, Option.map_map]
      rfl
  | array items =>
      rw [takeChild?, child?]
      cases index : Text.indexValue? component with
      | none => rfl
      | some place =>
          by_cases inBounds : place < items.length
          · simp [withoutChild, index, inBounds]
          · simp [inBounds]
  | _ => rfl

/-- A container that loses the entry of a component, where the others stay in their order. -/
inductive LosesEntry (component : String) (removed : Value) : Value → Value → Prop
  | entry {before after : Entries Value} :
      component ∉ Entries.keys before →
      LosesEntry component removed (.map (before ++ (component, removed) :: after))
        (.map (before ++ after))
  | item {before after : List Value} :
      Text.indexValue? component = some before.length →
      LosesEntry component removed (.array (before ++ removed :: after)) (.array (before ++ after))

/-- A child stands under the first key that is the component, or at the position it denotes. -/
theorem child?_eq_some_iff (value : Value) (component : String) (child : Value) :
    value.child? component = some child ↔
      (∃ before after, value = .map (before ++ (component, child) :: after) ∧
          component ∉ Entries.keys before) ∨
        ∃ before after, value = .array (before ++ child :: after) ∧
          Text.indexValue? component = some before.length := by
  cases value with
  | map entries =>
      rw [child?, Entries.lookup_eq_some_iff]
      simp
  | array items =>
      rw [child?, Option.bind_eq_some_iff]
      simp only [reduceCtorEq, false_and, exists_false, false_or, array.injEq]
      constructor
      · rintro ⟨place, index, atPlace⟩
        obtain ⟨inBounds, sameItem⟩ := List.getElem?_eq_some_iff.1 atPlace
        refine ⟨items.take place, items.drop (place + 1), ?_, ?_⟩
        · rw [← sameItem, ← List.drop_eq_getElem_cons inBounds, List.take_append_drop]
        · rw [List.length_take, Nat.min_eq_left (Nat.le_of_lt inBounds), index]
      · rintro ⟨before, after, rfl, index⟩
        exact ⟨before.length, index, by simp⟩
  | _ => simp [child?]

theorem losesEntry_withoutChild (found : value.child? component = some child) :
    LosesEntry component child value (value.withoutChild component) := by
  rcases (child?_eq_some_iff value component child).1 found with
    ⟨before, after, rfl, fresh⟩ | ⟨before, after, rfl, index⟩
  · rw [withoutChild, Entries.erase_of_not_mem fresh]
    exact .entry fresh
  · have others : (before ++ child :: after).eraseIdx before.length = before ++ after := by
      simp [List.eraseIdx_append_of_length_le]
    rw [withoutChild, index, Option.map_some, Option.getD_some, others]
    exact .item index

/-- Taking out a child that was new leads back to the container without it. -/
theorem withoutChild_withChild {isLast : Bool}
    (entered : value.enter component isLast = .ok child)
    (absent : value.child? component = none) (new : Value) :
    (value.withChild component new).withoutChild component = value := by
  cases value with
  | map entries =>
      rw [withChild, withoutChild,
        Entries.erase_insert ((Entries.lookup_eq_none_iff entries component).1 absent)]
  | array items =>
      obtain ⟨place, index, inBounds | rfl⟩ := exists_place_of_enter entered
      · rw [child?, index, Option.bind_some, List.getElem?_eq_none_iff] at absent
        exact absurd inBounds (Nat.not_lt_of_le absent)
      · rw [withChild_behind index, withoutChild, index, Option.map_some, Option.getD_some]
        simp [List.eraseIdx_append_of_length_le]
  | _ => contradiction

/-! ## Trees that are the same but for one place -/

/-- The trees are the same, except that the components lead to `old` in the first one and to `new`
in the second one. -/
inductive SameExceptAt (old new : Value) : List String → Value → Value → Prop
  | here : SameExceptAt old new [] old new
  | entry {component : String} {rest : List String} {child changed : Value}
      {before after : Entries Value} :
      component ∉ Entries.keys before →
      SameExceptAt old new rest child changed →
      SameExceptAt old new (component :: rest) (.map (before ++ (component, child) :: after))
        (.map (before ++ (component, changed) :: after))
  | item {component : String} {rest : List String} {child changed : Value}
      {before after : List Value} :
      Text.indexValue? component = some before.length →
      SameExceptAt old new rest child changed →
      SameExceptAt old new (component :: rest) (.array (before ++ child :: after))
        (.array (before ++ changed :: after))

variable {old new changed removed left : Value} {components rest parents : List String}

/-- One step above, the trees are the same except below that step. -/
theorem sameExceptAt_cons_iff :
    SameExceptAt old new (component :: rest) value changed ↔
      ∃ child left, value.child? component = some child ∧ SameExceptAt old new rest child left ∧
        changed = value.withChild component left := by
  constructor
  · intro same
    cases same with
    | @entry _ _ child left before after fresh below =>
        refine ⟨child, left, (child?_eq_some_iff _ _ _).2 (.inl ⟨before, after, rfl, fresh⟩), below,
          ?_⟩
        rw [withChild, Entries.insert_of_not_mem fresh]
    | @item _ _ child left before after index below =>
        refine ⟨child, left, (child?_eq_some_iff _ _ _).2 (.inr ⟨before, after, rfl, index⟩), below,
          ?_⟩
        rw [withChild_item index (by simp)]
        simp
  · rintro ⟨child, left, found, below, rfl⟩
    rcases (child?_eq_some_iff value component child).1 found with
      ⟨before, after, rfl, fresh⟩ | ⟨before, after, rfl, index⟩
    · rw [withChild, Entries.insert_of_not_mem fresh]
      exact .entry fresh below
    · rw [withChild_item index (by simp)]
      simpa using SameExceptAt.item index below

/-- The second tree is the first one with the new value written over the old one. -/
theorem SameExceptAt.storeAt_eq (same : SameExceptAt old new components value changed)
    (position : Nat) :
    storeAt new position components value = (none, changed) := by
  induction components generalizing position value changed with
  | nil =>
      cases same
      rfl
  | cons component rest inductionHypothesis =>
      obtain ⟨child, left, found, below, rfl⟩ := sameExceptAt_cons_iff.1 same
      rw [storeAt_cons_of_enter (enter_of_child? found _), inductionHypothesis below]

/-! ## Paths -/

theorem getAt?_append (first second : List String) (value : Value) :
    value.getAt? (first ++ second) =
      (value.getAt? first).bind fun part => part.getAt? second := by
  induction first generalizing value with
  | nil => rfl
  | cons component rest inductionHypothesis =>
      rw [List.cons_append, getAt?, getAt?, Option.bind_assoc]
      exact Option.bind_congr fun child _ => inductionHypothesis child

/-- Above its last step a removal takes out below the child and puts back what is left of it. -/
theorem removeAt?_cons_cons_of_child? (found : value.child? component = some child)
    (next : String) (later : List String) :
    removeAt? (component :: next :: later) value =
      (removeAt? (next :: later) child).map fun taken =>
        (taken.1, value.withChild component taken.2) := by
  rw [removeAt?, found]
  · cases taken : removeAt? (next :: later) child with
    | none => simp [taken]
    | some both => simp [taken, replaceAt?_cons_of_child? found, replaceAt?]
  · exact List.cons_ne_nil next later

/-- What is taken out is what is found, and nothing where there is nothing. -/
theorem map_fst_removeAt? (components : List String) (value : Value) :
    (removeAt? components value).map Prod.fst = value.getAt? components := by
  induction components generalizing value with
  | nil => rfl
  | cons component rest inductionHypothesis =>
      cases found : value.child? component with
      | none => cases rest <;> simp [removeAt?, takeChild?_eq, getAt?, found]
      | some child =>
          rw [getAt?_cons_of_child? found]
          cases rest with
          | nil => simp [removeAt?, takeChild?_eq, getAt?, found]
          | cons next later =>
              rw [removeAt?_cons_cons_of_child? found, Option.map_map,
                ← inductionHypothesis child]
              rfl

/-- A removal changes nothing but the container that its last step leads into. -/
theorem sameExceptAt_of_removeAt?
    (taken : removeAt? (parents ++ [last]) value = some (removed, left)) :
    ∃ container, container.child? last = some removed ∧
      SameExceptAt container (container.withoutChild last) parents value left := by
  induction parents generalizing value left with
  | nil =>
      rw [List.nil_append, removeAt?, takeChild?_eq] at taken
      obtain ⟨child, found, both⟩ := Option.map_eq_some_iff.1 taken
      cases both
      exact ⟨value, found, .here⟩
  | cons component rest inductionHypothesis =>
      obtain ⟨next, later, split⟩ := List.exists_cons_of_ne_nil (List.concat_ne_nil last rest)
      cases found : value.child? component with
      | none =>
          rw [List.cons_append, split] at taken
          simp [removeAt?, found] at taken
      | some child =>
          rw [List.cons_append, split, removeAt?_cons_cons_of_child? found, ← split,
            Option.map_eq_some_iff] at taken
          obtain ⟨⟨_, leftBelow⟩, takenBelow, both⟩ := taken
          cases both
          obtain ⟨container, foundLast, same⟩ := inductionHypothesis takenBelow
          exact ⟨container, foundLast,
            sameExceptAt_cons_iff.2 ⟨child, leftBelow, found, same, rfl⟩⟩

/-- Taking out what was written into a container that had no such entry leads back to the tree
before. -/
theorem removeAt?_of_storeAt {position : Nat}
    (stored : storeAt new position (parents ++ [last]) value = (none, changed))
    (reached : value.getAt? parents = some container)
    (absent : container.child? last = none) :
    removeAt? (parents ++ [last]) changed = some (new, value) := by
  induction parents generalizing position value changed with
  | nil =>
      cases reached
      obtain ⟨child, left, entered, storedBelow, rfl⟩ := storeAt_cons_eq_iff.1 stored
      cases storedBelow
      rw [List.nil_append, removeAt?, takeChild?_eq, child?_withChild entered, Option.map_some,
        withoutChild_withChild entered absent]
  | cons component rest inductionHypothesis =>
      obtain ⟨child, left, entered, storedBelow, rfl⟩ := storeAt_cons_eq_iff.1 stored
      obtain ⟨present, found, reachedBelow⟩ := Option.bind_eq_some_iff.1 reached
      have sameChild : child = present := by
        rw [enter_of_child? found] at entered
        exact (Except.ok.inj entered).symm
      subst sameChild
      have takenBelow := inductionHypothesis storedBelow reachedBelow
      obtain ⟨next, later, split⟩ := List.exists_cons_of_ne_nil (List.concat_ne_nil last rest)
      rw [List.cons_append, split, removeAt?_cons_cons_of_child? (child?_withChild entered left),
        ← split, takenBelow, Option.map_some, withChild_withChild entered, withChild_self found]

/-! ## The laws -/

theorem remove_of_removeAt? {path : Path}
    (taken : removeAt? path.components value = some (removed, left)) :
    value.remove path = (some removed, left) := by
  rw [remove, taken]

/-- A removal gives what is read at the path.  It changes nothing where that is nothing, and leaves
`null` of a whole tree; else the container above the last step loses that one entry, and everything
outside of the container stays as it was.  What a write has added to a container that was there is
taken out again without a trace. -/
theorem path_removal_laws (value : Value) (path : Path) :
    (value.remove path).1 = value.get? path ∧
    (value.get? path = none → (value.remove path).2 = value) ∧
    (path = .root → (value.remove path).2 = .null) ∧
    (∀ (parent : Path) last removed, path = parent.child last → value.get? path = some removed →
      ∃ container shrunk, LosesEntry last removed container shrunk ∧
        SameExceptAt container shrunk parent.components value (value.remove path).2 ∧
        ∀ other : Path, value.PathsPart parent.components other.components →
          (value.remove path).2.get? other = value.get? other) ∧
    ∀ (parent : Path) last new changed, path = parent.child last → value.get? path = none →
      (value.get? parent).isSome = true → value.set path new = .ok changed →
        changed.remove path = (some new, value) := by
  have found := map_fst_removeAt? path.components value
  refine ⟨?_, ?_, ?_, ?_, ?_⟩
  · rw [get?, ← found, remove]
    cases removeAt? path.components value <;> rfl
  · intro nothing
    rw [get?, ← found, Option.map_eq_none_iff] at nothing
    rw [remove, nothing]
  · rintro rfl
    rfl
  · rintro parent last removed rfl isFound
    rw [get?, ← found, Option.map_eq_some_iff] at isFound
    obtain ⟨⟨_, left⟩, taken, rfl⟩ := isFound
    rw [remove_of_removeAt? taken]
    obtain ⟨container, foundLast, same⟩ := sameExceptAt_of_removeAt? taken
    exact ⟨container, _, losesEntry_withoutChild foundLast, same, fun other parts =>
      getAt?_of_storeAt_of_pathsPart (same.storeAt_eq 0) parts⟩
  · rintro parent last new changed rfl nothing reached isSet
    obtain ⟨container, reachedParent⟩ := Option.isSome_iff_exists.1 reached
    have absent : container.child? last = none := by
      rw [get?, Path.child, getAt?_append, ← get?, reachedParent, Option.bind_some] at nothing
      rw [← nothing, getAt?]
      exact (Option.bind_fun_some _).symm
    exact remove_of_removeAt? (removeAt?_of_storeAt
      ((set_eq_ok_iff value _ new changed).1 isSet) reachedParent absent)

end Value

/-! ## Entries that are taken out of a tree -/

namespace Sample

/-- The first tag is taken out and the owner stays; a phone number that was added to the owner is
taken out without a trace. -/
theorem path_removal_shelf :
    (shelf.get? ⟨["tags", "0"]⟩ = some (.string "a") ∧
      (shelf.remove ⟨["tags", "0"]⟩).1 = some (.string "a") ∧
      ∃ container shrunk, Value.LosesEntry "0" (.string "a") container shrunk ∧
        Value.SameExceptAt container shrunk ["tags"] shelf (shelf.remove ⟨["tags", "0"]⟩).2 ∧
        (shelf.remove ⟨["tags", "0"]⟩).2.get? ⟨["owner"]⟩ = shelf.get? ⟨["owner"]⟩) ∧
      ∃ changed, shelf.set ⟨["owner", "phone"]⟩ (.integer 5) = .ok changed ∧
        changed.remove ⟨["owner", "phone"]⟩ = (some (.integer 5), shelf) := by
  have apart : shelf.PathsPart ["tags"] ["owner"] := by
    refine ⟨[], "tags", [], "owner", [], rfl, rfl, by decide, fun items place isArray => ?_⟩
    cases isArray
  obtain ⟨sameAsRead, _, _, loses, _⟩ := Value.path_removal_laws shelf ⟨["tags", "0"]⟩
  obtain ⟨container, shrunk, losesEntry, same, unchanged⟩ :=
    loses ⟨["tags"]⟩ "0" (.string "a") rfl rfl
  obtain ⟨_, _, _, _, undoes⟩ := Value.path_removal_laws shelf ⟨["owner", "phone"]⟩
  exact ⟨⟨rfl, sameAsRead, container, shrunk, losesEntry, same, unchanged ⟨["owner"]⟩ apart⟩, _,
    rfl, undoes ⟨["owner"]⟩ "phone" (.integer 5) _ rfl rfl rfl rfl⟩

/-- The tag behind the one that is taken out moves forward. -/
example : (shelf.remove ⟨["tags", "0"]⟩).2.get? ⟨["tags", "0"]⟩ = some (.string "b") := rfl

end Sample

end Recast
