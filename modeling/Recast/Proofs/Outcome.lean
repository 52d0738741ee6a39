import Mathlib.Data.List.Forall2
import Recast.Entries.Basic

/-!
# Outcomes of combined steps

When a combination of outcomes is a value: a sequence of steps when each step is, and a list of
outcomes when all of them are.  It is an error when one step fails after others that did not.
-/

namespace Recast.Outcome

variable {α β ε ε' : Type}

theorem bind_eq_ok_iff (first : Except ε α) (next : α → Except ε β) (value : β) :
    (first >>= next) = .ok value ↔
      ∃ between, first = .ok between ∧ next between = .ok value := by
  cases first <;> simp [bind, Except.bind]

theorem map_eq_ok_iff (change : α → β) (outcome : Except ε α) (value : β) :
    outcome.map change = .ok value ↔ ∃ between, outcome = .ok between ∧ change between = value := by
  cases outcome <;> simp [Except.map]

theorem exists_map_eq_ok_iff (change : α → β) (outcome : Except ε α) :
    (∃ value, outcome.map change = .ok value) ↔ ∃ value, outcome = .ok value := by
  cases outcome <;> simp [Except.map]

theorem mapError_eq_ok_iff (change : ε → ε') (outcome : Except ε α) (value : α) :
    outcome.mapError change = .ok value ↔ outcome = .ok value := by
  cases outcome <;> simp [Except.mapError]

/-! ## Errors -/

theorem bind_eq_error_iff (first : Except ε α) (next : α → Except ε β) (error : ε) :
    (first >>= next) = .error error ↔
      first = .error error ∨ ∃ between, first = .ok between ∧ next between = .error error := by
  cases first <;> simp [bind, Except.bind]

theorem map_eq_error_iff (change : α → β) (outcome : Except ε α) (error : ε) :
    outcome.map change = .error error ↔ outcome = .error error := by
  cases outcome <;> simp [Except.map]

theorem mapError_eq_error_iff (change : ε → ε') (outcome : Except ε α) (error : ε') :
    outcome.mapError change = .error error ↔
      ∃ inner, outcome = .error inner ∧ change inner = error := by
  cases outcome <;> simp [Except.mapError]

/-- Some item fails, at its position, and all items before it pass. -/
def FirstFailure (passes : α → Prop) (fails : Nat → α → Prop) (items : List α) : Prop :=
  ∃ before item after, items = before ++ item :: after ∧ (∀ earlier ∈ before, passes earlier) ∧
    fails before.length item

theorem FirstFailure.exists_getElem? {passes : α → Prop} {fails : Nat → α → Prop} {items : List α}
    (failure : FirstFailure passes fails items) :
    ∃ position item, items[position]? = some item ∧ fails position item := by
  obtain ⟨before, item, after, rfl, _, failed⟩ := failure
  exact ⟨before.length, item, by simp, failed⟩

/-- Where items that pass still do, but one that fails may do so otherwise, the first failure is
one still, or some item fails otherwise. -/
theorem FirstFailure.imp_or {passes passes' : α → Prop} {fails fails' otherwise : Nat → α → Prop}
    {items : List α} (failure : FirstFailure passes fails items)
    (stillPass : ∀ item ∈ items, passes item → passes' item)
    (stillFails : ∀ position, ∀ item ∈ items, fails position item →
      fails' position item ∨ otherwise position item) :
    FirstFailure passes' fails' items ∨
      ∃ position item, items[position]? = some item ∧ otherwise position item := by
  obtain ⟨before, item, after, rfl, earlierPass, failed⟩ := failure
  have member : item ∈ before ++ item :: after := List.mem_append_right before List.mem_cons_self
  rcases stillFails before.length item member failed with still | other
  · refine .inl ⟨before, item, after, rfl, fun earlier earlierMember => ?_, still⟩
    exact stillPass earlier (List.mem_append_left _ earlierMember)
      (earlierPass earlier earlierMember)
  · exact .inr ⟨before.length, item, by simp, other⟩

theorem not_firstFailure_nil (passes : α → Prop) (fails : Nat → α → Prop) :
    ¬ FirstFailure passes fails [] := by
  rintro ⟨before, item, after, split, _⟩
  exact List.append_ne_nil_of_right_ne_nil before (List.cons_ne_nil item after) split.symm

theorem firstFailure_cons_iff (passes : α → Prop) (fails : Nat → α → Prop) (item : α)
    (rest : List α) :
    FirstFailure passes fails (item :: rest) ↔
      fails 0 item ∨
        passes item ∧ FirstFailure passes (fun position => fails (position + 1)) rest := by
  constructor
  · rintro ⟨before, failing, after, split, earlierPass, failed⟩
    cases before with
    | nil =>
        cases split
        exact .inl failed
    | cons first others =>
        cases split
        rw [List.forall_mem_cons] at earlierPass
        exact .inr ⟨earlierPass.1, others, failing, after, rfl, earlierPass.2, failed⟩
  · rintro (failed | ⟨passed, before, failing, after, rfl, earlierPass, failed⟩)
    · exact ⟨[], item, rest, rfl, fun _ member => absurd member List.not_mem_nil, failed⟩
    · exact ⟨item :: before, failing, after, rfl, List.forall_mem_cons.2 ⟨passed, earlierPass⟩,
        failed⟩

/-- Lists whose items pass and fail alike, position by position, have the same first failure. -/
theorem firstFailure_iff_of_forall₂ {passes : α → Prop} {passes' : β → Prop}
    {fails : Nat → α → Prop} {fails' : Nat → β → Prop} {left : List α} {right : List β}
    (alike : List.Forall₂ (fun item other => (passes item ↔ passes' other) ∧
      ∀ position, fails position item ↔ fails' position other) left right) :
    FirstFailure passes fails left ↔ FirstFailure passes' fails' right := by
  induction left generalizing right fails fails' with
  | nil =>
      cases alike
      simp only [not_firstFailure_nil]
  | cons item rest inductionHypothesis =>
      cases alike with
      | cons atFirst later =>
          obtain ⟨samePass, sameFail⟩ := atFirst
          rw [firstFailure_cons_iff, firstFailure_cons_iff, samePass, sameFail 0]
          refine or_congr Iff.rfl (and_congr_right fun _ => inductionHypothesis ?_)
          exact later.imp fun _ _ both => ⟨both.1, fun position => both.2 (position + 1)⟩

theorem firstFailure_congr {passes passes' : α → Prop} {fails fails' : Nat → α → Prop}
    {items : List α} (samePass : ∀ item ∈ items, (passes item ↔ passes' item))
    (sameFail : ∀ position, ∀ item ∈ items, (fails position item ↔ fails' position item)) :
    FirstFailure passes fails items ↔ FirstFailure passes' fails' items :=
  firstFailure_iff_of_forall₂ (List.forall₂_same.2 fun item member =>
    ⟨samePass item member, fun position => sameFail position item member⟩)

theorem firstFailure_map_iff (change : β → α) (passes : α → Prop) (fails : Nat → α → Prop)
    (items : List β) :
    FirstFailure passes fails (items.map change) ↔
      FirstFailure (fun item => passes (change item))
        (fun position item => fails position (change item)) items := by
  induction items generalizing fails with
  | nil => simp [not_firstFailure_nil]
  | cons item rest inductionHypothesis =>
      rw [List.map_cons, firstFailure_cons_iff, firstFailure_cons_iff, inductionHypothesis]

/-! ## The first error -/

/-- The error that an outcome is, if it is one. -/
def error? : Except ε α → Option ε
  | .ok _ => none
  | .error error => some error

theorem error?_eq_some_iff (outcome : Except ε α) (error : ε) :
    error? outcome = some error ↔ outcome = .error error := by
  cases outcome <;> simp [error?]

theorem error?_eq_none_iff (outcome : Except ε α) :
    error? outcome = none ↔ ∃ value, outcome = .ok value := by
  cases outcome <;> simp [error?]

/-- Where a step does not make the errors behind it, its own error is the first. -/
theorem error?_bind {first : Except ε α} {next : α → Except ε β} {later? : Option ε}
    (later : ∀ value, error? (next value) = later?) :
    error? (first >>= next) = (error? first).or later? := by
  cases first with
  | ok value => exact later value
  | error error => rfl

theorem error?_bind_ok (first : Except ε α) (change : α → β) :
    error? (first >>= fun value => .ok (change value)) = error? first := by
  cases first <;> rfl

theorem error?_map (change : α → β) (outcome : Except ε α) :
    error? (outcome.map change) = error? outcome := by
  cases outcome <;> rfl

theorem error?_mapError (change : ε → ε') (outcome : Except ε α) :
    error? (outcome.mapError change) = (error? outcome).map change := by
  cases outcome <;> rfl

theorem findSome?_cons_eq_or (find? : α → Option β) (item : α) (rest : List α) :
    (item :: rest).findSome? find? = (find? item).or (rest.findSome? find?) := by
  rw [List.findSome?_cons]
  cases find? item <;> rfl

theorem findSome?_congr {left right : α → Option β} {items : List α}
    (same : ∀ item ∈ items, left item = right item) :
    items.findSome? left = items.findSome? right := by
  induction items with
  | nil => rfl
  | cons item rest inductionHypothesis =>
      rw [List.forall_mem_cons] at same
      rw [findSome?_cons_eq_or, findSome?_cons_eq_or, same.1, inductionHypothesis same.2]

/-- What is found first is found at a first item that is not passed over. -/
theorem findSome?_eq_some_iff_firstFailure (find? : α → Option β) (items : List α) (found : β) :
    items.findSome? find? = some found ↔
      FirstFailure (fun item => find? item = none) (fun _ item => find? item = some found)
        items := by
  rw [List.findSome?_eq_some_iff]
  refine exists_congr fun before => exists_congr fun item => exists_congr fun after => ?_
  exact and_congr_right fun _ => and_comm

theorem findSome?_flatMap {γ : Type} (find? : β → Option γ) (partsOf : α → List β)
    (items : List α) :
    (items.flatMap partsOf).findSome? find? =
      items.findSome? fun item => (partsOf item).findSome? find? := by
  induction items with
  | nil => rfl
  | cons item rest inductionHypothesis =>
      rw [List.flatMap_cons, List.findSome?_append, inductionHypothesis, findSome?_cons_eq_or]

/-- The error of computed entries is the first of their errors. -/
theorem error?_sequence (computed : Entries (Except ε α)) :
    error? (Entries.sequence computed) = computed.findSome? fun entry => error? entry.2 := by
  induction computed with
  | nil => rfl
  | cons entry rest inductionHypothesis =>
      obtain ⟨key, outcome⟩ := entry
      rw [Entries.sequence, findSome?_cons_eq_or, ← inductionHypothesis]
      exact error?_bind fun value => error?_bind_ok _ _

/-- The error of computed entries is that of the first entry that failed. -/
theorem sequence_eq_error_iff (computed : Entries (Except ε α)) (error : ε) :
    Entries.sequence computed = .error error ↔
      FirstFailure (fun entry => ∃ value, entry.2 = .ok value)
        (fun _ entry => entry.2 = .error error) computed := by
  rw [← error?_eq_some_iff, error?_sequence, findSome?_eq_some_iff_firstFailure]
  simp only [error?_eq_some_iff, error?_eq_none_iff]

theorem exists_sequence_eq_ok_iff (computed : Entries (Except ε α)) :
    (∃ values, Entries.sequence computed = .ok values) ↔
      ∀ entry ∈ computed, ∃ value, entry.2 = .ok value := by
  rw [← error?_eq_none_iff, error?_sequence, List.findSome?_eq_none_iff]
  simp only [error?_eq_none_iff]

/-! ## Outcomes that are alike -/

/-- Both are errors, whichever, or both are values that are the same. -/
inductive Alike (same : α → β → Prop) : Except ε α → Except ε' β → Prop
  | ok {value : α} {other : β} : same value other → Alike same (.ok value) (.ok other)
  | error (error : ε) (otherError : ε') : Alike same (.error error) (.error otherError)

/-- Outcomes are alike if one is a value exactly if the other is, and then they are the same. -/
theorem alike_iff (same : α → β → Prop) (outcome : Except ε α) (otherOutcome : Except ε' β) :
    Alike same outcome otherOutcome ↔
      ((∃ value, outcome = .ok value) ↔ ∃ other, otherOutcome = .ok other) ∧
        ∀ value other, outcome = .ok value → otherOutcome = .ok other → same value other := by
  constructor
  · rintro (sameValue | _)
    · refine ⟨⟨fun _ => ⟨_, rfl⟩, fun _ => ⟨_, rfl⟩⟩, ?_⟩
      intro value other isValue isOther
      cases isValue
      cases isOther
      exact sameValue
    · exact ⟨⟨nofun, nofun⟩, nofun⟩
  · rintro ⟨sameSuccess, sameValues⟩
    cases outcome with
    | ok value =>
        obtain ⟨other, rfl⟩ := sameSuccess.1 ⟨value, rfl⟩
        exact .ok (sameValues value other rfl rfl)
    | error error =>
        cases otherOutcome with
        | ok other => exact absurd (sameSuccess.2 ⟨other, rfl⟩) (by simp)
        | error otherError => exact .error error otherError

/-- Steps that are alike, followed by steps that are alike after them, are alike together. -/
theorem Alike.bind {α' β' : Type} {same : α → β → Prop} {sameNext : α' → β' → Prop}
    {first : Except ε α} {otherFirst : Except ε' β} {next : α → Except ε α'}
    {otherNext : β → Except ε' β'} (alike : Alike same first otherFirst)
    (alikeNext : ∀ value other, same value other → Alike sameNext (next value) (otherNext other)) :
    Alike sameNext (first >>= next) (otherFirst >>= otherNext) := by
  cases alike with
  | ok sameValue => exact alikeNext _ _ sameValue
  | error error otherError => exact .error error otherError

/-! ## Values -/

/-- The value that an outcome is, if it is one. -/
def value [Inhabited α] (outcome : Except ε α) : α :=
  outcome.toOption.getD default

@[simp]
theorem value_ok [Inhabited α] (held : α) : value (.ok held : Except ε α) = held :=
  rfl

/-- Where every outcome is a value, these values are given by a function. -/
theorem exists_valueOf [Inhabited β] {compute : α → Except ε β} {items : List α}
    (computed : ∀ item ∈ items, ∃ value, compute item = .ok value) :
    ∃ valueOf : α → β, ∀ item ∈ items, compute item = .ok (valueOf item) := by
  refine ⟨fun item => value (compute item), fun item member => ?_⟩
  obtain ⟨held, heldOk⟩ := computed item member
  simp only [heldOk, value_ok]

/-- Outcomes that are values item by item come from a function that gives these values. -/
theorem forall₂_ok_iff [Inhabited β] (compute : α → Except ε β) (items : List α)
    (values : List β) :
    List.Forall₂ (fun item value => compute item = .ok value) items values ↔
      ∃ valueOf : α → β, (∀ item ∈ items, compute item = .ok (valueOf item)) ∧
        values = items.map valueOf := by
  constructor
  · intro computed
    refine ⟨fun item => value (compute item), ?_⟩
    induction computed with
    | nil => simp
    | cons first _ inductionHypothesis =>
        simp only [List.forall_mem_cons, List.map_cons, first, value_ok]
        exact ⟨⟨trivial, inductionHypothesis.1⟩, congrArg _ inductionHypothesis.2⟩
  · rintro ⟨valueOf, computed, rfl⟩
    rw [List.forall₂_map_right_iff, List.forall₂_same]
    exact computed

/-- Computing the value of each entry succeeds when it does for every entry.  How `compute`
words an error may depend on the key. -/
theorem sequence_map_eq_ok_iff [Inhabited β] {compute : String → α → Except ε β}
    {plain : α → Except ε' β}
    (sameSuccess : ∀ key item result, compute key item = .ok result ↔ plain item = .ok result)
    (entries : Entries α) (values : Entries β) :
    Entries.sequence (entries.map fun entry => (entry.1, compute entry.1 entry.2)) = .ok values ↔
      ∃ valueOf : α → β, (∀ entry ∈ entries, plain entry.2 = .ok (valueOf entry.2)) ∧
        values = Entries.mapValues valueOf entries := by
  constructor
  · intro computed
    refine ⟨fun item => value (plain item), ?_⟩
    induction entries generalizing values with
    | nil =>
        cases computed
        exact ⟨fun _ member => absurd member List.not_mem_nil, rfl⟩
    | cons entry rest inductionHypothesis =>
        rw [List.map_cons, Entries.sequence, bind_eq_ok_iff] at computed
        obtain ⟨first, firstComputed, later⟩ := computed
        rw [bind_eq_ok_iff] at later
        obtain ⟨others, othersComputed, assembled⟩ := later
        obtain ⟨restComputed, rfl⟩ := inductionHypothesis others othersComputed
        rw [sameSuccess] at firstComputed
        cases assembled
        refine ⟨List.forall_mem_cons.2 ⟨?_, restComputed⟩, ?_⟩
        · simp only [firstComputed, value_ok]
        · simp only [Entries.mapValues, List.map_cons, firstComputed, value_ok]
  · rintro ⟨valueOf, computed, rfl⟩
    induction entries with
    | nil => rfl
    | cons entry rest inductionHypothesis =>
        rw [List.forall_mem_cons] at computed
        rw [List.map_cons, Entries.sequence, (sameSuccess _ _ _).2 computed.1,
          inductionHypothesis computed.2]
        rfl

end Recast.Outcome
