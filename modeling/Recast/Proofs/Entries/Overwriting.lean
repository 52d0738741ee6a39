import Recast.Proofs.Entries.Arrangement

/-!
# Writing items over entries

Each item either has a value, which is written under its name, or has none, and then its name is
taken out.  What has the name of no item stays as it is.
-/

namespace Recast.Entries

variable {α β ι : Type}

/-- Write the items over the entries, in order. -/
def overwrite (name : ι → String) (value? : ι → Option α) (items : List ι)
    (entries : Entries α) : Entries α :=
  items.foldl (fun written item =>
    match value? item with
    | some value => insert written (name item) value
    | none => erase written (name item)) entries

/-- The names of the items that have a value. -/
def writtenNames (name : ι → String) (value? : ι → Option α) (items : List ι) : List String :=
  (items.filter fun item => (value? item).isSome).map name

/-- The names of the items that have none. -/
def droppedNames (name : ι → String) (value? : ι → Option α) (items : List ι) : List String :=
  (items.filter fun item => (value? item).isNone).map name

variable {name : ι → String} {value? : ι → Option α} {items : List ι} {entries : Entries α}

theorem overwrite_cons (item : ι) (rest : List ι) (entries : Entries α) :
    overwrite name value? (item :: rest) entries =
      overwrite name value? rest
        (match value? item with
          | some value => insert entries (name item) value
          | none => erase entries (name item)) :=
  rfl

/-- Where every item has a value, the table of the items is written. -/
theorem overwrite_some (valueOf : ι → α) (items : List ι) (entries : Entries α) :
    overwrite name (fun item => some (valueOf item)) items entries =
      extend entries (tabulate name valueOf items) := by
  induction items generalizing entries with
  | nil => rfl
  | cons item rest inductionHypothesis => exact inductionHypothesis _

theorem nodup_keys_overwrite (distinct : (keys entries).Nodup) :
    (keys (overwrite name value? items entries)).Nodup := by
  induction items generalizing entries with
  | nil => exact distinct
  | cons item rest inductionHypothesis =>
      cases given : value? item with
      | none =>
          rw [overwrite_cons, given]
          exact inductionHypothesis (nodup_keys_erase distinct _)
      | some value =>
          rw [overwrite_cons, given]
          exact inductionHypothesis (nodup_keys_insert distinct _ _)

/-- What has the name of no item stays. -/
theorem lookup_overwrite_of_not_mem (distinct : (keys entries).Nodup) {key : String}
    (unnamed : key ∉ items.map name) :
    (overwrite name value? items entries).lookup key = entries.lookup key := by
  induction items generalizing entries with
  | nil => rfl
  | cons item rest inductionHypothesis =>
      rw [List.map_cons, List.mem_cons, not_or] at unnamed
      cases given : value? item with
      | none =>
          rw [overwrite_cons, given,
            inductionHypothesis (nodup_keys_erase distinct _) unnamed.2, lookup_erase distinct,
            if_neg unnamed.1]
      | some value =>
          rw [overwrite_cons, given,
            inductionHypothesis (nodup_keys_insert distinct _ _) unnamed.2, lookup_insert,
            if_neg unnamed.1]

/-- The name of an item leads to its value, if it has one. -/
theorem lookup_overwrite (distinct : (keys entries).Nodup) (distinctNames : (items.map name).Nodup)
    {item : ι} (member : item ∈ items) :
    (overwrite name value? items entries).lookup (name item) = value? item := by
  induction items generalizing entries with
  | nil => contradiction
  | cons first rest inductionHypothesis =>
      obtain ⟨fresh, distinctRest⟩ := List.nodup_cons.1 (List.map_cons ▸ distinctNames)
      cases given : value? first with
      | none =>
          rw [overwrite_cons, given]
          have distinctErased := nodup_keys_erase distinct (name first)
          rcases List.mem_cons.1 member with rfl | later
          · rw [lookup_overwrite_of_not_mem distinctErased fresh, lookup_erase distinct,
              if_pos rfl, given]
          · exact inductionHypothesis distinctErased distinctRest later
      | some value =>
          rw [overwrite_cons, given]
          have distinctInserted := nodup_keys_insert distinct (name first) value
          rcases List.mem_cons.1 member with rfl | later
          · rw [lookup_overwrite_of_not_mem distinctInserted fresh, lookup_insert_self, given]
          · exact inductionHypothesis distinctInserted distinctRest later

/-- What was there keeps its place, except for names that are taken out; new names follow. -/
theorem keys_overwrite (distinct : (keys entries).Nodup)
    (distinctNames : (items.map name).Nodup) :
    keys (overwrite name value? items entries) =
      ((keys entries).filter fun key => !(droppedNames name value? items).contains key) ++
        (writtenNames name value? items).filter fun key => !(keys entries).contains key := by
  induction items generalizing entries with
  | nil => simp [overwrite, droppedNames, writtenNames]
  | cons item rest inductionHypothesis =>
      obtain ⟨fresh, distinctRest⟩ := List.nodup_cons.1 (List.map_cons ▸ distinctNames)
      have notDropped : name item ∉ droppedNames name value? rest := fun later =>
        fresh (List.map_subset name (List.filter_subset_self rest) later)
      have notWritten : name item ∉ writtenNames name value? rest := fun later =>
        fresh (List.map_subset name (List.filter_subset_self rest) later)
      have others : ∀ key ∈ writtenNames name value? rest, key ≠ name item := fun key member same =>
        notWritten (same ▸ member)
      cases given : value? item with
      | none =>
          have dropped : droppedNames name value? (item :: rest) =
              name item :: droppedNames name value? rest := by simp [droppedNames, given]
          have written : writtenNames name value? (item :: rest) =
              writtenNames name value? rest := by simp [writtenNames, given]
          rw [overwrite_cons, given,
            inductionHypothesis (nodup_keys_erase distinct _) distinctRest, keys_erase,
            distinct.erase_eq_filter, dropped, written, List.filter_filter]
          refine congrArg₂ _ (List.filter_congr fun key _ => ?_) (List.filter_congr ?_)
          · by_cases same : key = name item <;> simp [same]
          · intro key member
            simp [others key member]
      | some value =>
          have dropped : droppedNames name value? (item :: rest) =
              droppedNames name value? rest := by simp [droppedNames, given]
          have written : writtenNames name value? (item :: rest) =
              name item :: writtenNames name value? rest := by simp [writtenNames, given]
          rw [overwrite_cons, given,
            inductionHypothesis (nodup_keys_insert distinct _ _) distinctRest, keys_insert,
            dropped, written]
          by_cases present : name item ∈ keys entries
          · simp [present]
          · have newNames : (writtenNames name value? rest).filter
                  (fun key => !(keys entries ++ [name item]).contains key) =
                (writtenNames name value? rest).filter fun key => !(keys entries).contains key :=
              List.filter_congr fun key member => by simp [others key member]
            rw [if_neg present, newNames]
            simp [present, notDropped]

end Recast.Entries
