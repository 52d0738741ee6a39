import Recast.Entries.Basic

/-!
# What the operations on entries do

Each operation is described by what it does to look-ups and to the list of keys.  Inserting never
needs the keys to be distinct and keeps them so; erasing takes out the first entry of a key, which
is all of them where keys are distinct.
-/

namespace Recast.Entries

variable {α β ε : Type}

/-! ## Keys -/

@[simp]
theorem keys_nil : keys ([] : Entries α) = [] :=
  rfl

@[simp]
theorem keys_cons (key : String) (value : α) (rest : Entries α) :
    keys ((key, value) :: rest) = key :: keys rest :=
  rfl

@[simp]
theorem keys_append (left right : Entries α) :
    keys (left ++ right) = keys left ++ keys right :=
  List.map_append

theorem isSome_lookup_iff (entries : Entries α) (key : String) :
    (entries.lookup key).isSome = true ↔ key ∈ keys entries := by
  induction entries with
  | nil => simp
  | cons entry rest inductionHypothesis =>
      obtain ⟨first, value⟩ := entry
      by_cases same : key = first
      · simp [same]
      · simp [List.lookup_cons, beq_eq_false_iff_ne.2 same, same, inductionHypothesis]

theorem contains_iff (entries : Entries α) (key : String) :
    contains entries key = true ↔ key ∈ keys entries :=
  isSome_lookup_iff entries key

theorem lookup_eq_none_iff (entries : Entries α) (key : String) :
    entries.lookup key = none ↔ key ∉ keys entries := by
  rw [← isSome_lookup_iff, Bool.not_eq_true, Option.isSome_eq_false_iff, Option.isNone_iff_eq_none]

/-! ## Insertion -/

theorem lookup_insert (entries : Entries α) (key other : String) (value : α) :
    (insert entries key value).lookup other =
      if other = key then some value else entries.lookup other := by
  induction entries with
  | nil =>
      by_cases same : other = key
      · simp [insert, same]
      · simp [insert, List.lookup_cons, beq_eq_false_iff_ne.2 same, same]
  | cons entry rest inductionHypothesis =>
      obtain ⟨first, old⟩ := entry
      by_cases atFirst : first = key
      · subst atFirst
        by_cases same : other = first
        · simp [insert, same]
        · simp [insert, List.lookup_cons, beq_eq_false_iff_ne.2 same, same]
      · by_cases same : other = first
        · subst same
          simp [insert, atFirst]
        · simp [insert, atFirst, List.lookup_cons, beq_eq_false_iff_ne.2 same,
            inductionHypothesis]

@[simp]
theorem lookup_insert_self (entries : Entries α) (key : String) (value : α) :
    (insert entries key value).lookup key = some value := by
  simp [lookup_insert]

/-- A new key goes to the end; the others stay where they are. -/
theorem keys_insert (entries : Entries α) (key : String) (value : α) :
    keys (insert entries key value) =
      if key ∈ keys entries then keys entries else keys entries ++ [key] := by
  induction entries with
  | nil => simp [insert]
  | cons entry rest inductionHypothesis =>
      obtain ⟨first, old⟩ := entry
      by_cases atFirst : first = key
      · simp [insert, atFirst]
      · have different : key ≠ first := fun same => atFirst same.symm
        by_cases later : key ∈ keys rest <;>
          simp [insert, atFirst, different, inductionHypothesis, later]

theorem nodup_keys_insert {entries : Entries α} (distinct : (keys entries).Nodup)
    (key : String) (value : α) :
    (keys (insert entries key value)).Nodup := by
  rw [keys_insert]
  split
  · exact distinct
  · next absent =>
      rw [List.nodup_append]
      refine ⟨distinct, List.nodup_cons.2 ⟨List.not_mem_nil, List.nodup_nil⟩, ?_⟩
      intro earlier earlierMember later laterMember
      rw [List.mem_singleton.1 laterMember]
      exact fun same => absent (same ▸ earlierMember)

theorem nodup_keys_extend {entries : Entries α} (distinct : (keys entries).Nodup)
    (pairs : List (String × α)) :
    (keys (extend entries pairs)).Nodup := by
  induction pairs generalizing entries with
  | nil => exact distinct
  | cons pair rest inductionHypothesis =>
      exact inductionHypothesis (nodup_keys_insert distinct pair.1 pair.2)

theorem nodup_keys_ofList (pairs : List (String × α)) :
    (keys (ofList pairs)).Nodup :=
  nodup_keys_extend (keys_nil (α := α) ▸ List.nodup_nil) pairs

/-- Of two values for a key the later one counts. -/
theorem insert_insert (entries : Entries α) (key : String) (first second : α) :
    insert (insert entries key first) key second = insert entries key second := by
  induction entries with
  | nil => simp [insert]
  | cons entry rest inductionHypothesis =>
      obtain ⟨other, old⟩ := entry
      by_cases same : other = key
      · simp [insert, same]
      · simp [insert, same, inductionHypothesis]

/-- Giving a key the value that it has changes nothing. -/
theorem insert_of_lookup {entries : Entries α} {key : String} {value : α}
    (found : entries.lookup key = some value) :
    insert entries key value = entries := by
  induction entries with
  | nil => contradiction
  | cons entry rest inductionHypothesis =>
      obtain ⟨other, old⟩ := entry
      by_cases same : other = key
      · subst same
        rw [List.lookup_cons_self, Option.some.injEq] at found
        simp [insert, found]
      · have different : (key == other) = false := beq_false_of_ne (Ne.symm same)
        rw [List.lookup_cons, different] at found
        simp [insert, same, inductionHypothesis found]

/-! ## Removal -/

theorem keys_erase (entries : Entries α) (key : String) :
    keys (erase entries key) = (keys entries).erase key := by
  induction entries with
  | nil => rfl
  | cons entry rest inductionHypothesis =>
      obtain ⟨first, value⟩ := entry
      by_cases atFirst : first = key
      · simp [erase, atFirst]
      · simp [erase, atFirst, inductionHypothesis]

theorem nodup_keys_erase {entries : Entries α} (distinct : (keys entries).Nodup)
    (key : String) :
    (keys (erase entries key)).Nodup := by
  rw [keys_erase]
  exact distinct.erase key

theorem lookup_erase {entries : Entries α} (distinct : (keys entries).Nodup)
    (key other : String) :
    (erase entries key).lookup other =
      if other = key then none else entries.lookup other := by
  induction entries with
  | nil => simp [erase]
  | cons entry rest inductionHypothesis =>
      obtain ⟨first, value⟩ := entry
      obtain ⟨fresh, distinctRest⟩ := List.nodup_cons.1 distinct
      by_cases atFirst : first = key
      · subst atFirst
        by_cases same : other = first
        · subst same
          simp [erase, (lookup_eq_none_iff rest other).2 fresh]
        · simp [erase, List.lookup_cons, beq_eq_false_iff_ne.2 same, same]
      · by_cases same : other = first
        · subst same
          simp [erase, atFirst]
        · simp [erase, atFirst, List.lookup_cons, beq_eq_false_iff_ne.2 same,
            inductionHypothesis distinctRest]

/-! ## Changed and computed values -/

@[simp]
theorem keys_mapValues (change : α → β) (entries : Entries α) :
    keys (mapValues change entries) = keys entries := by
  simp [keys, mapValues, Function.comp_def]

theorem mapValues_mapValues {γ : Type} (change : α → β) (again : β → γ) (entries : Entries α) :
    mapValues again (mapValues change entries) = mapValues (again ∘ change) entries := by
  rw [mapValues, mapValues, List.map_map]
  rfl

@[simp]
theorem lookup_mapValues (change : α → β) (entries : Entries α) (key : String) :
    (mapValues change entries).lookup key = (entries.lookup key).map change := by
  induction entries with
  | nil => rfl
  | cons entry rest inductionHypothesis =>
      obtain ⟨first, value⟩ := entry
      by_cases same : key = first
      · simp [mapValues, same]
      · simp only [mapValues, List.map_cons, List.lookup_cons,
          beq_eq_false_iff_ne.2 same] at inductionHypothesis ⊢
        exact inductionHypothesis

/-- All values are there exactly when each was computed. -/
theorem sequence_eq_ok_iff (computed : Entries (Except ε α)) (entries : Entries α) :
    sequence computed = .ok entries ↔ computed = mapValues .ok entries := by
  induction computed generalizing entries with
  | nil => cases entries <;> simp [sequence, mapValues]
  | cons entry rest inductionHypothesis =>
      obtain ⟨key, outcome⟩ := entry
      cases outcome with
      | error error => cases entries <;> simp [sequence, mapValues, bind, Except.bind]
      | ok value =>
          cases entries with
          | nil =>
              cases others : sequence rest <;>
                simp [sequence, mapValues, bind, Except.bind, others]
          | cons expected later =>
              obtain ⟨expectedKey, expectedValue⟩ := expected
              have laterIff := inductionHypothesis later
              cases others : sequence rest with
              | error error =>
                  rw [others] at laterIff
                  simp only [mapValues] at laterIff
                  simp [sequence, mapValues, bind, Except.bind, others, ← laterIff]
              | ok found =>
                  rw [others] at laterIff
                  simp only [mapValues, Except.ok.injEq] at laterIff
                  simp [sequence, mapValues, bind, Except.bind, others, ← laterIff, and_assoc]

end Recast.Entries
