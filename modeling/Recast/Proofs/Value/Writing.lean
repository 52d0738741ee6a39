import Recast.Entries.Lemmas
import Recast.Value.Navigation

/-!
# Laws of writing along a path

What is written is what is read there afterwards, a second write undoes the first, and what lies on
other paths stays as it was.  One step down has these laws for a container and its direct children;
a path has them by induction on its components.  Two components may name the same position of an
array, as `1` and `01` do, so paths lie apart only where the positions differ as well.
-/

namespace Recast

namespace Value

variable {value child : Value} {component : String} {isLast : Bool}

/-! ## One step -/

/-- An item is entered, or the place behind the last one. -/
theorem enter_array_eq_ok_iff (items : List Value) (component : String) (isLast : Bool)
    (child : Value) :
    (Value.array items).enter component isLast = .ok child ↔
      ∃ place, Text.indexValue? component = some place ∧
        (items[place]? = some child ∨
          (place = items.length ∧ isLast = true ∧ child = .map [])) := by
  rw [enter]
  cases Text.indexValue? component with
  | none => simp
  | some place =>
      cases found : items[place]? with
      | some item =>
          have inBounds : place < items.length := (List.getElem?_eq_some_iff.1 found).1
          simp [found, Nat.ne_of_lt inBounds]
      | none =>
          by_cases atEnd : isLast = true ∧ place = items.length
          · obtain ⟨last, rfl⟩ := atEnd
            simp [last, eq_comm (a := child)]
          · have refused : (isLast && place == items.length) = false := by
              rw [Bool.eq_false_iff, ne_eq, Bool.and_eq_true, beq_iff_eq]
              exact atEnd
            simp only [found, refused, Bool.false_eq_true, if_false, reduceCtorEq, false_iff,
              Option.some.injEq, exists_eq_left', false_or]
            exact fun entered => atEnd ⟨entered.2.1, entered.1⟩

/-- What is entered is the child that is there; where there is none, it is an empty map. -/
theorem child?_cases (entered : value.enter component isLast = .ok child) :
    value.child? component = some child ∨
      (value.child? component = none ∧ child = .map []) := by
  cases value with
  | map entries =>
      have sameChild : (entries.lookup component).getD (.map []) = child :=
        Except.ok.inj entered
      rw [child?]
      cases found : entries.lookup component with
      | some present =>
          rw [found] at sameChild
          exact .inl (congrArg some sameChild)
      | none =>
          rw [found] at sameChild
          exact .inr ⟨rfl, sameChild.symm⟩
  | array items =>
      obtain ⟨place, index, found | ⟨atEnd, _, isEmpty⟩⟩ :=
        (enter_array_eq_ok_iff items component isLast child).1 entered
      · left
        rw [child?, index, Option.bind_some, found]
      · right
        rw [child?, index, Option.bind_some, atEnd]
        exact ⟨List.getElem?_eq_none (Nat.le_refl _), isEmpty⟩
  | _ => contradiction

theorem enter_of_child? (found : value.child? component = some child) (isLast : Bool) :
    value.enter component isLast = .ok child := by
  cases value with
  | map entries =>
      rw [child?] at found
      rw [enter, found, Option.getD_some]
  | array items =>
      obtain ⟨place, index, atPlace⟩ := Option.bind_eq_some_iff.1 found
      exact (enter_array_eq_ok_iff items component isLast child).2 ⟨place, index, .inl atPlace⟩
  | _ => contradiction

section Arrays

variable {items : List Value} {place : Nat}

/-- What is entered in an array has a position, or the one behind the items. -/
theorem exists_place_of_enter (entered : (Value.array items).enter component isLast = .ok child) :
    ∃ place, Text.indexValue? component = some place ∧
      (place < items.length ∨ place = items.length) := by
  obtain ⟨place, index, atPlace | ⟨atEnd, _, _⟩⟩ :=
    (enter_array_eq_ok_iff items component isLast child).1 entered
  · exact ⟨place, index, .inl (List.getElem?_eq_some_iff.1 atPlace).1⟩
  · exact ⟨place, index, .inr atEnd⟩

theorem withChild_item (index : Text.indexValue? component = some place)
    (inBounds : place < items.length) (child : Value) :
    (Value.array items).withChild component child = .array (items.set place child) := by
  simp only [withChild, index, if_pos inBounds]

theorem withChild_behind (index : Text.indexValue? component = some items.length)
    (child : Value) :
    (Value.array items).withChild component child = .array (items ++ [child]) := by
  simp only [withChild, index, if_neg (Nat.lt_irrefl _)]

end Arrays

/-- What is put below a step is found there. -/
theorem child?_withChild (entered : value.enter component isLast = .ok child) (left : Value) :
    (value.withChild component left).child? component = some left := by
  cases value with
  | map entries => exact Entries.lookup_insert_self entries component left
  | array items =>
      obtain ⟨place, index, inBounds | rfl⟩ := exists_place_of_enter entered
      · rw [withChild_item index inBounds, child?, index, Option.bind_some,
          List.getElem?_set_self inBounds]
      · rw [withChild_behind index, child?, index, Option.bind_some,
          List.getElem?_concat_length]
  | _ => contradiction

/-- Putting back what was there changes nothing. -/
theorem withChild_self (found : value.child? component = some child) :
    value.withChild component child = value := by
  cases value with
  | map entries => exact congrArg Value.map (Entries.insert_of_lookup found)
  | array items =>
      obtain ⟨place, index, atPlace⟩ := Option.bind_eq_some_iff.1 found
      obtain ⟨inBounds, sameItem⟩ := List.getElem?_eq_some_iff.1 atPlace
      rw [withChild_item index inBounds, ← sameItem, List.set_getElem_self]
  | _ => contradiction

/-- Of two children that are put below the same step the later one counts. -/
theorem withChild_withChild (entered : value.enter component isLast = .ok child)
    (first second : Value) :
    (value.withChild component first).withChild component second =
      value.withChild component second := by
  cases value with
  | map entries => exact congrArg Value.map (Entries.insert_insert entries component first second)
  | array items =>
      obtain ⟨place, index, inBounds | rfl⟩ := exists_place_of_enter entered
      · have stillInBounds : place < (items.set place first).length := by
          rw [List.length_set]
          exact inBounds
        rw [withChild_item index inBounds, withChild_item index inBounds,
          withChild_item index stillInBounds, List.set_set]
      · -- The first child was added behind the items, where the second one replaces it.
        have added : items.length < (items ++ [first]).length := by simp
        rw [withChild_behind index, withChild_behind index, withChild_item index added,
          List.set_append_right _ _ (Nat.le_refl _)]
        simp
  | _ => contradiction

/-- What is put below one step does not change what is below another one.  Components that differ
may still denote the same position of an array. -/
theorem child?_withChild_of_ne (entered : value.enter component isLast = .ok child)
    {other : String} (different : component ≠ other)
    (positionsDiffer : ∀ items place, value = .array items →
      Text.indexValue? component = some place → Text.indexValue? other ≠ some place)
    (left : Value) :
    (value.withChild component left).child? other = value.child? other := by
  cases value with
  | map entries =>
      rw [withChild, child?, child?, Entries.lookup_insert, if_neg (Ne.symm different)]
  | array items =>
      obtain ⟨place, index, room⟩ := exists_place_of_enter entered
      have apart : ∀ elsewhere, Text.indexValue? other = some elsewhere → place ≠ elsewhere := by
        rintro elsewhere otherIndex rfl
        exact positionsDiffer items place rfl index otherIndex
      rcases room with inBounds | rfl
      · rw [withChild_item index inBounds, child?, child?]
        apply Option.bind_congr
        intro elsewhere otherIndex
        exact List.getElem?_set_ne (apart elsewhere otherIndex)
      · rw [withChild_behind index, child?, child?]
        apply Option.bind_congr
        intro elsewhere otherIndex
        rcases Nat.lt_or_gt_of_ne (apart elsewhere otherIndex) with behind | before
        · rw [List.getElem?_eq_none (by simp; omega), List.getElem?_eq_none (Nat.le_of_lt behind)]
        · exact List.getElem?_append_left before
  | _ => contradiction

/-! ## Paths -/

variable {components rest : List String} {new changed : Value} {position : Nat}

theorem storeAt_cons_of_enter (entered : value.enter component rest.isEmpty = .ok child) :
    storeAt new position (component :: rest) value =
      ((storeAt new (position + 1) rest child).1,
        value.withChild component (storeAt new (position + 1) rest child).2) := by
  rw [storeAt, entered]

/-- A write that is not stopped enters a child, writes below it and puts it back. -/
theorem storeAt_cons_eq_iff :
    storeAt new position (component :: rest) value = (none, changed) ↔
      ∃ child left, value.enter component rest.isEmpty = .ok child ∧
        storeAt new (position + 1) rest child = (none, left) ∧
        changed = value.withChild component left := by
  cases entered : value.enter component rest.isEmpty with
  | error fault => simp [storeAt, entered]
  | ok child =>
      rw [storeAt_cons_of_enter entered]
      constructor
      · intro stored
        injection stored with open? sameTree
        exact ⟨child, _, rfl, Prod.ext open? rfl, sameTree.symm⟩
      · rintro ⟨_, left, ⟨rfl⟩, storedChild, rfl⟩
        rw [storedChild]

/-- What is written is what is found. -/
theorem getAt?_of_storeAt (stored : storeAt new position components value = (none, changed)) :
    changed.getAt? components = some new := by
  induction components generalizing position value changed with
  | nil =>
      cases stored
      rfl
  | cons component rest inductionHypothesis =>
      obtain ⟨child, left, entered, storedChild, rfl⟩ := storeAt_cons_eq_iff.1 stored
      rw [getAt?, child?_withChild entered, Option.bind_some]
      exact inductionHypothesis storedChild

/-- A second write leaves nothing of the first. -/
theorem storeAt_of_storeAt (stored : storeAt new position components value = (none, changed))
    (later : Value) :
    storeAt later position components changed = storeAt later position components value := by
  induction components generalizing position value changed with
  | nil => rfl
  | cons component rest inductionHypothesis =>
      obtain ⟨child, left, entered, storedChild, rfl⟩ := storeAt_cons_eq_iff.1 stored
      have enteredAgain := enter_of_child? (child?_withChild entered left) rest.isEmpty
      rw [storeAt_cons_of_enter enteredAgain, storeAt_cons_of_enter entered,
        inductionHypothesis storedChild, withChild_withChild entered]

theorem getAt?_cons_of_child? (found : value.child? component = some child)
    (components : List String) :
    value.getAt? (component :: components) = child.getAt? components := by
  rw [getAt?, found, Option.bind_some]

/-- What lies deeper below a step is found through what is entered there. -/
theorem getAt?_cons_of_enter (entered : value.enter component isLast = .ok child) (first : String)
    (rest : List String) :
    value.getAt? (component :: first :: rest) = child.getAt? (first :: rest) := by
  rcases child?_cases entered with found | ⟨absent, rfl⟩
  · exact getAt?_cons_of_child? found _
  · rw [getAt?, absent]
    rfl

/-- Two ways into the value part: the components after what they share differ, and if these lead
into an array, they do not denote the same position. -/
def PathsPart (value : Value) (left right : List String) : Prop :=
  ∃ shared first leftRest second rightRest,
    left = shared ++ first :: leftRest ∧ right = shared ++ second :: rightRest ∧
      first ≠ second ∧
      ∀ items place, value.getAt? shared = some (.array items) →
        Text.indexValue? first = some place → Text.indexValue? second ≠ some place

/-- What is found on another path stays as it was. -/
theorem getAt?_of_storeAt_of_pathsPart {others : List String}
    (stored : storeAt new position components value = (none, changed))
    (parts : value.PathsPart components others) :
    changed.getAt? others = value.getAt? others := by
  obtain ⟨shared, first, _, second, foundRest, rfl, rfl, different, positions⟩ := parts
  induction shared generalizing position value changed with
  | nil =>
      obtain ⟨child, left, entered, _, rfl⟩ := storeAt_cons_eq_iff.1 stored
      have sameChild : (value.withChild first left).child? second = value.child? second := by
        apply child?_withChild_of_ne entered different
        rintro items place rfl
        exact positions items place rfl
      rw [List.nil_append, getAt?, getAt?, sameChild]
  | cons component rest inductionHypothesis =>
      obtain ⟨child, left, entered, storedChild, rfl⟩ := storeAt_cons_eq_iff.1 stored
      have positionsBelow : ∀ items place, child.getAt? rest = some (.array items) →
          Text.indexValue? first = some place → Text.indexValue? second ≠ some place := by
        intro items place reached
        rcases child?_cases entered with found | ⟨_, rfl⟩
        · exact positions items place ((getAt?_cons_of_child? found rest).trans reached)
        · -- No array is reached in the empty map that was made on the way.
          cases rest <;> cases reached
      have below := inductionHypothesis storedChild positionsBelow
      rw [List.cons_append, getAt?_cons_of_child? (child?_withChild entered left), below]
      cases rest with
      | nil => exact (getAt?_cons_of_enter entered second foundRest).symm
      | cons next later => exact (getAt?_cons_of_enter entered next _).symm

/-! ## Replacing in place -/

theorem replaceAt?_cons_of_child? (found : value.child? component = some child) (new : Value)
    (rest : List String) :
    replaceAt? new (component :: rest) value =
      (replaceAt? new rest child).map (value.withChild component) := by
  cases value with
  | map entries =>
      rw [child?] at found
      rw [replaceAt?, found, Option.bind_some]
      cases replaceAt? new rest child <;> rfl
  | array items =>
      obtain ⟨place, index, atPlace⟩ := Option.bind_eq_some_iff.1 found
      have inBounds : place < items.length := (List.getElem?_eq_some_iff.1 atPlace).1
      simp only [replaceAt?, index, Option.bind_eq_bind, Option.bind_some, atPlace]
      cases replaceAt? new rest child with
      | none => rfl
      | some left =>
          rw [Option.bind_some, Option.map_some, withChild_item index inBounds]
  | _ => contradiction

/-- Where there is a value, replacing it is writing. -/
theorem exists_replaceAt?_and_storeAt {old : Value} (found : value.getAt? components = some old)
    (new : Value) (position : Nat) :
    ∃ changed, replaceAt? new components value = some changed ∧
      storeAt new position components value = (none, changed) := by
  induction components generalizing position value with
  | nil => exact ⟨new, by cases value <;> rfl, rfl⟩
  | cons component rest inductionHypothesis =>
      obtain ⟨child, foundChild, foundBelow⟩ := Option.bind_eq_some_iff.1 found
      obtain ⟨left, replaced, stored⟩ := inductionHypothesis foundBelow (position + 1)
      refine ⟨value.withChild component left, ?_, ?_⟩
      · rw [replaceAt?_cons_of_child? foundChild, replaced, Option.map_some]
      · rw [storeAt_cons_of_enter (enter_of_child? foundChild _), stored]

/-! ## The laws -/

theorem set_eq_ok_iff (value : Value) (path : Path) (new changed : Value) :
    value.set path new = .ok changed ↔ value.store path new = (none, changed) := by
  rw [set]
  split
  · next left stored => simp [stored]
  · next error left stored => simp [stored]

/-- A write that is not stopped is read back, counts for nothing once the same path is written
again, and leaves every path as it was that parts from the written one.  Where the path leads to a
value, replacing that value in place is the same as writing. -/
theorem path_update_laws (value : Value) (path : Path) (new : Value) :
    (∀ changed, value.set path new = .ok changed →
      changed.get? path = some new ∧
      (∀ later, ∃ final, changed.set path later = .ok final ∧
        value.set path later = .ok final) ∧
      ∀ other : Path, value.PathsPart path.components other.components →
        changed.get? other = value.get? other) ∧
    ((value.get? path).isSome = true →
      ∃ changed, value.replace? path new = some changed ∧ value.set path new = .ok changed) := by
  constructor
  · intro changed isSet
    have stored := (set_eq_ok_iff value path new changed).1 isSet
    have readBack := getAt?_of_storeAt stored
    refine ⟨readBack, fun later => ?_, fun other parts => ?_⟩
    · obtain ⟨final, _, storedAgain⟩ := exists_replaceAt?_and_storeAt readBack later 0
      have storedFirst : value.store path later = (none, final) :=
        (storeAt_of_storeAt stored later).symm.trans storedAgain
      exact ⟨final, (set_eq_ok_iff changed path later final).2 storedAgain,
        (set_eq_ok_iff value path later final).2 storedFirst⟩
    · exact getAt?_of_storeAt_of_pathsPart stored parts
  · intro found
    obtain ⟨old, foundOld⟩ := Option.isSome_iff_exists.1 found
    obtain ⟨changed, replaced, stored⟩ := exists_replaceAt?_and_storeAt foundOld new 0
    exact ⟨changed, replaced, (set_eq_ok_iff value path new changed).2 stored⟩

end Value

/-! ## A tree that is written to -/

namespace Sample

def shelf : Value :=
  .map [("tags", .array [.string "a", .string "b"]), ("owner", .map [("name", .string "Jo")])]

/-- The shelf with another tag. -/
def longerShelf : Value :=
  .map [("tags", .array [.string "a", .string "b", .string "c"]),
    ("owner", .map [("name", .string "Jo")])]

/-- A tag is added behind the others, which stay, and the name of the owner can be replaced. -/
theorem path_update_shelf :
    shelf.set ⟨["tags", "2"]⟩ (.string "c") = .ok longerShelf ∧
      longerShelf.get? ⟨["tags", "2"]⟩ = some (.string "c") ∧
      longerShelf.get? ⟨["tags", "+1"]⟩ = shelf.get? ⟨["tags", "+1"]⟩ ∧
      ∃ changed, shelf.replace? ⟨["owner", "name"]⟩ .null = some changed ∧
        shelf.set ⟨["owner", "name"]⟩ .null = .ok changed := by
  have isSet : shelf.set ⟨["tags", "2"]⟩ (.string "c") = .ok longerShelf := rfl
  have apart : shelf.PathsPart ["tags", "2"] ["tags", "+1"] := by
    refine ⟨["tags"], "2", [], "+1", [], rfl, rfl, by decide, fun items place _ index => ?_⟩
    have isTwo : place = 2 := (Option.some.inj index).symm
    rw [isTwo]
    decide
  obtain ⟨readBack, _, unchanged⟩ :=
    (Value.path_update_laws shelf ⟨["tags", "2"]⟩ (.string "c")).1 longerShelf isSet
  exact ⟨isSet, readBack, unchanged ⟨["tags", "+1"]⟩ apart,
    (Value.path_update_laws shelf ⟨["owner", "name"]⟩ .null).2 rfl⟩

/-- Another spelling of the written position reads what was written. -/
example : longerShelf.get? ⟨["tags", "02"]⟩ = some (.string "c") := rfl

end Sample

end Recast
