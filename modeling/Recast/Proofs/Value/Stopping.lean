import Recast.Proofs.Value.Writing

/-!
# Where writing along a path is stopped

A write is stopped exactly where the value that its way leads to cannot be entered, and it leaves
the tree as it was.  It makes maps on its way before it knows whether the rest of the way is open.
That never has to be undone: an empty map has room for whatever follows, so no write is stopped
after it has made one.
-/

namespace Recast

namespace Value

variable {value child part : Value} {component : String} {components rest : List String}
  {position : Nat} {fault : ComponentFault}

/-! ## One step -/

/-- The value cannot be entered by the component.  As the last one of a path it may name the place
behind the items of an array. -/
inductive Refuses (component : String) (isLast : Bool) : Value → ComponentFault → Prop
  | notContainer {value : Value} :
      value.isMap = false →
      value.isArray = false →
      Refuses component isLast value .notContainer
  | notIndex {items : List Value} :
      Text.indexValue? component = none →
      Refuses component isLast (.array items) .notIndex
  | outOfBounds {items : List Value} {place : Nat} :
      Text.indexValue? component = some place →
      isLast = false →
      items.length ≤ place →
      Refuses component isLast (.array items) .outOfBounds
  | beyondEnd {items : List Value} {place : Nat} :
      Text.indexValue? component = some place →
      isLast = true →
      items.length < place →
      Refuses component isLast (.array items) .outOfBounds

theorem enter_eq_error_iff (value : Value) (component : String) (isLast : Bool)
    (fault : ComponentFault) :
    value.enter component isLast = .error fault ↔ value.Refuses component isLast fault := by
  constructor
  · intro refused
    cases value with
    | map entries => contradiction
    | array items =>
        rw [enter] at refused
        cases index : Text.indexValue? component with
        | none =>
            rw [index] at refused
            cases refused
            exact .notIndex index
        | some place =>
            simp only [index] at refused
            cases atPlace : items[place]? with
            | some item =>
                rw [atPlace] at refused
                contradiction
            | none =>
                have outside : items.length ≤ place := List.getElem?_eq_none_iff.1 atPlace
                simp only [atPlace] at refused
                split at refused
                · contradiction
                · next notAtEnd =>
                    cases refused
                    cases isLast with
                    | false => exact .outOfBounds index rfl outside
                    | true =>
                        have different : place ≠ items.length := by simpa using notAtEnd
                        exact .beyondEnd index rfl (by omega)
    | _ =>
        cases refused
        exact .notContainer rfl rfl
  · intro refuses
    cases refuses with
    | notContainer notMap notArray =>
        cases value with
        | map entries => contradiction
        | array items => contradiction
        | _ => rfl
    | notIndex index => rw [enter, index]
    | outOfBounds index notLast outside =>
        simp [enter, index, List.getElem?_eq_none outside, notLast]
    | beyondEnd index _ outside =>
        simp [enter, index, List.getElem?_eq_none (Nat.le_of_lt outside), Nat.ne_of_gt outside]

/-! ## Paths -/

/-- The way into the value ends before the component at the position, for the fault. -/
def BlockedAt (value : Value) (components : List String) (position : Nat)
    (fault : ComponentFault) : Prop :=
  ∃ component part, components[position]? = some component ∧
    value.getAt? (components.take position) = some part ∧
    part.Refuses component (position + 1 == components.length) fault

theorem blockedAt_zero_iff :
    value.BlockedAt (component :: rest) 0 fault ↔
      value.Refuses component rest.isEmpty fault := by
  have isLast : (0 + 1 == (component :: rest).length) = rest.isEmpty := by
    cases rest <;> simp
  rw [BlockedAt, isLast]
  constructor
  · rintro ⟨_, _, ⟨rfl⟩, ⟨rfl⟩, refuses⟩
    exact refuses
  · intro refuses
    exact ⟨component, value, rfl, rfl, refuses⟩

theorem blockedAt_succ_iff :
    value.BlockedAt (component :: rest) (position + 1) fault ↔
      ∃ child, value.child? component = some child ∧ child.BlockedAt rest position fault := by
  have isLast : (position + 1 + 1 == (component :: rest).length) =
      (position + 1 == rest.length) := by
    rw [List.length_cons, Bool.eq_iff_iff, beq_iff_eq, beq_iff_eq, Nat.add_right_cancel_iff]
  rw [BlockedAt, isLast, List.getElem?_cons_succ, List.take_succ_cons]
  constructor
  · rintro ⟨stopping, part, atPosition, reached, refuses⟩
    obtain ⟨child, found, reachedBelow⟩ := Option.bind_eq_some_iff.1 reached
    exact ⟨child, found, stopping, part, atPosition, reachedBelow, refuses⟩
  · rintro ⟨child, found, stopping, part, atPosition, reachedBelow, refuses⟩
    exact ⟨stopping, part, atPosition, (getAt?_cons_of_child? found _).trans reachedBelow, refuses⟩

/-- Below an empty map every way is open. -/
theorem storeAt_emptyMap (new : Value) (start : Nat) (components : List String) :
    (storeAt new start components (.map [])).1 = none := by
  induction components generalizing start with
  | nil => rfl
  | cons component rest inductionHypothesis => exact inductionHypothesis (start + 1)

/-- A write whose way ends before a component is stopped there, and the tree stays as it was. -/
theorem storeAt_of_blockedAt (new : Value) (start : Nat)
    (blocked : value.BlockedAt components position fault) :
    ∃ component, components[position]? = some component ∧
      storeAt new start components value =
        (some (.invalidComponent component (start + position) fault), value) := by
  induction components generalizing value start position with
  | nil =>
      obtain ⟨component, _, impossible, _⟩ := blocked
      contradiction
  | cons component rest inductionHypothesis =>
      cases position with
      | zero =>
          have refused := (enter_eq_error_iff value component rest.isEmpty fault).2
            (blockedAt_zero_iff.1 blocked)
          refine ⟨component, rfl, ?_⟩
          simp only [storeAt, refused, Nat.add_zero]
      | succ position =>
          obtain ⟨child, found, blockedBelow⟩ := blockedAt_succ_iff.1 blocked
          obtain ⟨stopping, atPosition, stopped⟩ := inductionHypothesis (start + 1) blockedBelow
          refine ⟨stopping, atPosition, ?_⟩
          rw [storeAt_cons_of_enter (enter_of_child? found _), stopped, withChild_self found,
            Nat.add_right_comm, Nat.add_assoc]

/-- A write is stopped only where its way ends. -/
theorem exists_blockedAt_of_storeAt {new : Value} {start : Nat} {error : PathError}
    (stopped : (storeAt new start components value).1 = some error) :
    ∃ position fault, value.BlockedAt components position fault := by
  induction components generalizing value start with
  | nil => contradiction
  | cons component rest inductionHypothesis =>
      cases entered : value.enter component rest.isEmpty with
      | error fault =>
          exact ⟨0, fault, blockedAt_zero_iff.2 ((enter_eq_error_iff _ _ _ _).1 entered)⟩
      | ok child =>
          rw [storeAt_cons_of_enter entered] at stopped
          rcases child?_cases entered with found | ⟨_, rfl⟩
          · obtain ⟨position, fault, blocked⟩ := inductionHypothesis stopped
            exact ⟨position + 1, fault, blockedAt_succ_iff.2 ⟨child, found, blocked⟩⟩
          · rw [storeAt_emptyMap] at stopped
            contradiction

/-- The way ends at one position only. -/
theorem BlockedAt.unique {otherPosition : Nat} {otherFault : ComponentFault}
    (blocked : value.BlockedAt components position fault)
    (other : value.BlockedAt components otherPosition otherFault) :
    otherPosition = position ∧ otherFault = fault := by
  obtain ⟨component, _, stopped⟩ := storeAt_of_blockedAt .null 0 blocked
  obtain ⟨otherComponent, _, stoppedToo⟩ := storeAt_of_blockedAt .null 0 other
  rw [stopped, Prod.mk.injEq, Option.some.injEq, PathError.invalidComponent.injEq] at stoppedToo
  exact ⟨by simpa using stoppedToo.1.2.1.symm, stoppedToo.1.2.2.symm⟩

/-- A write fails exactly where the way along its path ends early.  It ends at one position, which
the error names together with the component there and the reason, and the tree is left as it was. -/
theorem write_fails_iff_blocked (value : Value) (path : Path) (new : Value) :
    ((∃ error, value.set path new = .error error) ↔
      ∃ position fault, value.BlockedAt path.components position fault) ∧
    ∀ position fault, value.BlockedAt path.components position fault →
      (∀ otherPosition otherFault,
        value.BlockedAt path.components otherPosition otherFault →
          otherPosition = position ∧ otherFault = fault) ∧
      ∃ component, path.components[position]? = some component ∧
        value.set path new = .error (.invalidComponent component position fault) ∧
        value.store path new =
          (some (.invalidComponent component position fault), value) := by
  have stops : ∀ position fault, value.BlockedAt path.components position fault →
      ∃ component, path.components[position]? = some component ∧
        value.set path new = .error (.invalidComponent component position fault) ∧
        value.store path new =
          (some (.invalidComponent component position fault), value) := by
    intro position fault blocked
    obtain ⟨component, atPosition, stopped⟩ := storeAt_of_blockedAt new 0 blocked
    rw [Nat.zero_add] at stopped
    have stored : value.store path new =
        (some (.invalidComponent component position fault), value) := stopped
    exact ⟨component, atPosition, by rw [set, stored], stored⟩
  refine ⟨⟨?_, ?_⟩, fun position fault blocked => ⟨fun _ _ => blocked.unique,
    stops position fault blocked⟩⟩
  · rintro ⟨error, failed⟩
    rw [set] at failed
    split at failed
    · contradiction
    · next stopping left stored =>
        have stopped : (storeAt new 0 path.components value).1 = some stopping :=
          congrArg Prod.fst stored
        exact exists_blockedAt_of_storeAt stopped
  · rintro ⟨position, fault, blocked⟩
    obtain ⟨component, _, failed, _⟩ := stops position fault blocked
    exact ⟨_, failed⟩

end Value

/-! ## A way that ends at a text -/

namespace Sample

/-- The name of an owner has nothing below it, so the write is stopped at the third component. -/
theorem write_fails_shelf :
    shelf.BlockedAt ["owner", "name", "first"] 2 .notContainer ∧
      (∃ error, shelf.set ⟨["owner", "name", "first"]⟩ .null = .error error) ∧
      shelf.store ⟨["owner", "name", "first"]⟩ .null =
        (some (.invalidComponent "first" 2 .notContainer), shelf) := by
  have blocked : shelf.BlockedAt ["owner", "name", "first"] 2 .notContainer :=
    ⟨"first", .string "Jo", rfl, rfl, .notContainer rfl rfl⟩
  obtain ⟨failsIff, stops⟩ :=
    Value.write_fails_iff_blocked shelf ⟨["owner", "name", "first"]⟩ .null
  obtain ⟨_, component, atPosition, _, stored⟩ := stops 2 .notContainer blocked
  have sameComponent : "first" = component := Option.some.inj atPosition
  exact ⟨blocked, failsIff.2 ⟨2, .notContainer, blocked⟩, sameComponent ▸ stored⟩

/-- A tag further behind the others than the next one cannot be added. -/
example : shelf.BlockedAt ["tags", "3"] 1 .outOfBounds :=
  ⟨"3", _, rfl, rfl, .beyondEnd rfl rfl (by decide)⟩

end Sample

end Recast
