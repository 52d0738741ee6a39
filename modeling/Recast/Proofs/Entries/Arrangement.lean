import Mathlib.Data.List.Nodup
import Recast.Proofs.Entries.Agreement

/-!
# Tables, additions and arrangements of entries

A table gives each named item a value.  Adding entries with new keys appends them.  Arranging
entries by a layout moves keys and never changes what a look-up finds; entries arranged by the
keys of other entries with the same look-ups are those entries.
-/

namespace Recast.Entries

variable {α β ι : Type}

/-! ## Tables -/

/-- The entries that give each item's name the value of the item. -/
def tabulate (name : ι → String) (value : ι → α) (items : List ι) : Entries α :=
  items.map fun item => (name item, value item)

@[simp]
theorem keys_tabulate (name : ι → String) (value : ι → α) (items : List ι) :
    keys (tabulate name value items) = items.map name := by
  simp [keys, tabulate, Function.comp_def]

theorem mem_tabulate {name : ι → String} {value : ι → α} {items : List ι}
    {entry : String × α} :
    entry ∈ tabulate name value items ↔
      ∃ item ∈ items, (name item, value item) = entry :=
  List.mem_map

theorem lookup_tabulate {name : ι → String} {items : List ι}
    (distinct : (items.map name).Nodup) (value : ι → α) {item : ι} (member : item ∈ items) :
    (tabulate name value items).lookup (name item) = some (value item) := by
  apply lookup_of_mem
  · rw [keys_tabulate]
    exact distinct
  · exact mem_tabulate.2 ⟨item, member, rfl⟩

theorem tabulate_congr {name : ι → String} {left right : ι → α} {items : List ι}
    (same : ∀ item ∈ items, left item = right item) :
    tabulate name left items = tabulate name right items :=
  List.map_congr_left fun item member => by rw [same item member]

theorem mapValues_tabulate (change : α → β) (name : ι → String) (value : ι → α)
    (items : List ι) :
    mapValues change (tabulate name value items) =
      tabulate name (fun item => change (value item)) items := by
  simp [mapValues, tabulate, Function.comp_def]

theorem agree_tabulate {same : α → β → Prop} {name : ι → String} {items : List ι}
    {left : ι → α} {right : ι → β} (distinct : (items.map name).Nodup)
    (each : ∀ item ∈ items, same (left item) (right item)) :
    Agree same (tabulate name left items) (tabulate name right items) := by
  refine ⟨by rw [tabulate, tabulate, List.length_map, List.length_map], ?_⟩
  intro entry member
  obtain ⟨item, itemMember, rfl⟩ := mem_tabulate.1 member
  exact ⟨right item, lookup_tabulate distinct right itemMember, each item itemMember⟩

/-- Entries under the names of the items, in order, are a table. -/
theorem eq_tabulate_of_keys {name : ι → String} {items : List ι} {entries : Entries α}
    {value : ι → α} (distinct : (items.map name).Nodup)
    (sameKeys : keys entries = items.map name)
    (found : ∀ item ∈ items, entries.lookup (name item) = some (value item)) :
    entries = tabulate name value items := by
  apply ext_of_keys
  · rw [sameKeys]
    exact distinct
  · rw [sameKeys, keys_tabulate]
  · intro key member
    rw [sameKeys] at member
    obtain ⟨item, itemMember, rfl⟩ := List.mem_map.1 member
    rw [found item itemMember, lookup_tabulate distinct value itemMember]

/-- A table of outcomes is computed when every outcome is a value. -/
theorem sequence_tabulate_eq_ok_iff [Inhabited α] {ε : Type} {name : ι → String}
    {items : List ι} (distinct : (items.map name).Nodup) (outcome : ι → Except ε α)
    (entries : Entries α) :
    sequence (tabulate name outcome items) = .ok entries ↔
      ∃ value : ι → α,
        (∀ item ∈ items, outcome item = .ok (value item)) ∧
          entries = tabulate name value items := by
  rw [sequence_eq_ok_iff]
  constructor
  · intro computed
    have sameKeys : keys entries = items.map name := by
      have keysEqual := congrArg keys computed
      rw [keys_tabulate, keys_mapValues] at keysEqual
      exact keysEqual.symm
    have found : ∀ item ∈ items,
        ∃ value, entries.lookup (name item) = some value ∧ outcome item = .ok value := by
      intro item member
      have lookups := congrArg (List.lookup (name item)) computed
      rw [lookup_tabulate distinct outcome member, lookup_mapValues] at lookups
      obtain ⟨value, valueFound, valueOk⟩ := Option.map_eq_some_iff.1 lookups.symm
      exact ⟨value, valueFound, valueOk.symm⟩
    refine ⟨fun item => (entries.lookup (name item)).getD default, ?_, ?_⟩
    · intro item member
      obtain ⟨value, valueFound, valueOk⟩ := found item member
      simp only [valueOk, valueFound, Option.getD_some]
    · apply eq_tabulate_of_keys distinct sameKeys
      intro item member
      obtain ⟨value, valueFound, _⟩ := found item member
      rw [valueFound, Option.getD_some]
  · rintro ⟨value, computed, rfl⟩
    rw [mapValues_tabulate]
    exact tabulate_congr computed

/-! ## Tables with gaps -/

/-- The entries that give an item's name the value of the item, for the items that have one. -/
def collect (name : ι → String) (value? : ι → Option α) (items : List ι) : Entries α :=
  items.filterMap fun item => (value? item).map (name item, ·)

theorem mem_keys_collect {name : ι → String} {value? : ι → Option α} {items : List ι}
    {key : String} (member : key ∈ keys (collect name value? items)) :
    key ∈ items.map name := by
  obtain ⟨entry, entryMember, rfl⟩ := List.mem_map.1 member
  obtain ⟨item, itemMember, given⟩ := List.mem_filterMap.1 entryMember
  obtain ⟨value, _, rfl⟩ := Option.map_eq_some_iff.1 given
  exact List.mem_map_of_mem itemMember

theorem lookup_collect {name : ι → String} {items : List ι}
    (distinct : (items.map name).Nodup) (value? : ι → Option α) {item : ι}
    (member : item ∈ items) :
    (collect name value? items).lookup (name item) = value? item := by
  induction items with
  | nil => contradiction
  | cons first rest inductionHypothesis =>
      obtain ⟨fresh, distinctRest⟩ := List.nodup_cons.1 (List.map_cons ▸ distinct)
      have step : collect name value? (first :: rest) =
          ((value? first).map (name first, ·)).toList ++ collect name value? rest := by
        cases given : value? first <;> simp [collect, given]
      rw [step, List.lookup_append]
      rcases List.mem_cons.1 member with rfl | later
      · cases value? item with
        | none => exact (lookup_eq_none_iff _ _).2 fun present => fresh (mem_keys_collect present)
        | some value => simp
      · have different : (name item == name first) = false := by
          apply beq_eq_false_iff_ne.2
          intro same
          exact fresh (same ▸ List.mem_map_of_mem later)
        rw [inductionHypothesis distinctRest later]
        cases value? first <;> simp [List.lookup_cons, different]

/-! ## The place of a key -/

/-- What a look-up finds stands where its key comes first. -/
theorem lookup_eq_some_iff {entries : Entries α} {key : String} {value : α} :
    entries.lookup key = some value ↔
      ∃ before after, entries = before ++ (key, value) :: after ∧ key ∉ keys before := by
  rw [List.lookup_eq_some_iff]
  refine exists₂_congr fun before after => and_congr_right fun _ => ?_
  rw [keys, List.mem_map, not_exists]
  refine forall_congr' fun entry => ?_
  rw [not_and, bne_iff_ne, ne_comm]

section Place

variable {before after : Entries α} {key : String}

theorem insert_of_not_mem (fresh : key ∉ keys before) (old value : α) :
    insert (before ++ (key, old) :: after) key value = before ++ (key, value) :: after := by
  induction before with
  | nil => simp [insert]
  | cons entry rest inductionHypothesis =>
      obtain ⟨first, held⟩ := entry
      rw [keys_cons, List.mem_cons, not_or] at fresh
      rw [List.cons_append, insert, if_neg (Ne.symm fresh.1), inductionHypothesis fresh.2]
      rfl

theorem erase_of_not_mem (fresh : key ∉ keys before) (value : α) :
    erase (before ++ (key, value) :: after) key = before ++ after := by
  induction before with
  | nil => simp [erase]
  | cons entry rest inductionHypothesis =>
      obtain ⟨first, held⟩ := entry
      rw [keys_cons, List.mem_cons, not_or] at fresh
      rw [List.cons_append, erase, if_neg (Ne.symm fresh.1), inductionHypothesis fresh.2]
      rfl

end Place

/-! ## Addition of new keys -/

theorem insert_eq_append {entries : Entries α} {key : String} (fresh : key ∉ keys entries)
    (value : α) :
    insert entries key value = entries ++ [(key, value)] := by
  induction entries with
  | nil => rfl
  | cons entry rest inductionHypothesis =>
      obtain ⟨first, old⟩ := entry
      rw [keys_cons, List.mem_cons, not_or] at fresh
      rw [insert, if_neg (Ne.symm fresh.1), inductionHypothesis fresh.2]
      rfl

/-- A key that was new leaves nothing when it is taken out again. -/
theorem erase_insert {entries : Entries α} {key : String} (fresh : key ∉ keys entries)
    (value : α) :
    erase (insert entries key value) key = entries := by
  rw [insert_eq_append fresh, erase_of_not_mem fresh, List.append_nil]

/-- Entries whose keys are all new go to the end in their order. -/
theorem extend_eq_append {entries additions : Entries α}
    (distinct : (keys additions).Nodup)
    (fresh : ∀ key ∈ keys additions, key ∉ keys entries) :
    extend entries additions = entries ++ additions := by
  induction additions generalizing entries with
  | nil => exact (List.append_nil entries).symm
  | cons addition rest inductionHypothesis =>
      obtain ⟨key, value⟩ := addition
      obtain ⟨once, distinctRest⟩ := List.nodup_cons.1 distinct
      have freshRest : ∀ later ∈ keys rest, later ∉ keys (entries ++ [(key, value)]) := by
        intro later member
        rw [keys_append, List.mem_append, not_or]
        refine ⟨fresh later (List.mem_cons_of_mem _ member), ?_⟩
        intro atKey
        rw [List.mem_singleton.1 atKey] at member
        exact once member
      calc
        extend entries ((key, value) :: rest) = extend (insert entries key value) rest := rfl
        _ = extend (entries ++ [(key, value)]) rest := by
            rw [insert_eq_append (fresh key List.mem_cons_self)]
        _ = (entries ++ [(key, value)]) ++ rest := inductionHypothesis distinctRest freshRest
        _ = entries ++ (key, value) :: rest := by simp

/-! ## Arrangement -/

/-- The entries whose key `layout` lists come first, in the order of `layout`; the others follow in
their own order. -/
def arrange (entries : Entries α) (layout : List String) : Entries α :=
  layout.filterMap (fun key => (entries.lookup key).map (key, ·)) ++
    entries.filter fun entry => !layout.contains entry.1

theorem keys_filter (keep : String → Bool) (entries : Entries α) :
    keys (entries.filter fun entry => keep entry.1) = (keys entries).filter keep := by
  rw [keys, keys, List.filter_map]
  rfl

theorem lookup_filter (keep : String → Bool) (entries : Entries α) (key : String) :
    List.lookup key (entries.filter fun entry => keep entry.1) =
      if keep key then entries.lookup key else none := by
  induction entries with
  | nil => simp
  | cons entry rest inductionHypothesis =>
      obtain ⟨first, value⟩ := entry
      by_cases same : key = first
      · subst same
        by_cases kept : keep key <;> simp [kept, inductionHypothesis]
      · have different : (key == first) = false := beq_eq_false_iff_ne.2 same
        by_cases kept : keep first <;>
          simp [kept, List.lookup_cons, different, inductionHypothesis]

/-- Entries that agree also do so under some of their keys. -/
theorem Agree.filter {same : α → β → Prop} {left : Entries α} {right : Entries β}
    (agree : Agree same left right) (distinct : (keys left).Nodup) (keep : String → Bool) :
    Agree same (left.filter fun entry => keep entry.1)
      (right.filter fun entry => keep entry.1) := by
  have permutation := agree.keys_perm distinct
  apply Agree.of_lookup
  · rw [keys_filter]
    exact distinct.filter _
  · rw [keys_filter]
    exact (permutation.nodup_iff.1 distinct).filter _
  · intro key
    rw [keys_filter, keys_filter, List.mem_filter, List.mem_filter, permutation.mem_iff]
    exact id
  · intro entry member
    obtain ⟨original, kept⟩ := List.mem_filter.1 member
    obtain ⟨other, found, sameValue⟩ := agree.2 entry original
    refine ⟨other, ?_, sameValue⟩
    rw [lookup_filter, if_pos kept, found]

/-- The keys of the layout that are there come first, and then the others. -/
theorem keys_arrange (entries : Entries α) (layout : List String) :
    keys (arrange entries layout) =
      layout.filter (contains entries) ++
        (keys entries).filter fun key => !layout.contains key := by
  rw [arrange, keys_append, keys_filter fun key => !layout.contains key]
  congr 1
  induction layout with
  | nil => rfl
  | cons key rest inductionHypothesis =>
      cases found : entries.lookup key with
      | none => simp [contains, found, inductionHypothesis]
      | some value => simp [contains, found, inductionHypothesis]

theorem nodup_keys_arrange {entries : Entries α} {layout : List String}
    (distinct : (keys entries).Nodup) (layoutDistinct : layout.Nodup) :
    (keys (arrange entries layout)).Nodup := by
  rw [keys_arrange, List.nodup_append]
  refine ⟨layoutDistinct.filter _, distinct.filter _, ?_⟩
  intro early earlyMember late lateMember same
  subst same
  have listed := List.mem_of_mem_filter earlyMember
  simp [listed] at lateMember

/-- The keys listed by the layout are found among the entries brought forward. -/
theorem lookup_filterMap_layout (entries : Entries α) (layout : List String) (key : String) :
    List.lookup key (layout.filterMap fun listed => (entries.lookup listed).map (listed, ·)) =
      if key ∈ layout then entries.lookup key else none := by
  induction layout with
  | nil => rfl
  | cons first rest inductionHypothesis =>
      cases found : entries.lookup first with
      | none =>
          by_cases same : key = first
          · subst same
            simp [found, inductionHypothesis]
          · simp [found, inductionHypothesis, same]
      | some value =>
          by_cases same : key = first
          · subst same
            simp [found]
          · simp [found, List.lookup_cons, beq_eq_false_iff_ne.2 same, inductionHypothesis, same]

@[simp]
theorem lookup_arrange (entries : Entries α) (layout : List String) (key : String) :
    (arrange entries layout).lookup key = entries.lookup key := by
  rw [arrange, List.lookup_append, lookup_filterMap_layout,
    lookup_filter fun key => !layout.contains key]
  by_cases listed : key ∈ layout <;> simp [listed]

/-- Entries agree with what a layout makes of them. -/
theorem agree_arrange {same : α → α → Prop} {entries : Entries α} {layout : List String}
    (distinct : (keys entries).Nodup) (layoutDistinct : layout.Nodup)
    (reflexive : ∀ entry ∈ entries, same entry.2 entry.2) :
    Agree same entries (arrange entries layout) :=
  .of_lookup_eq distinct (nodup_keys_arrange distinct layoutDistinct)
    (fun key => (lookup_arrange entries layout key).symm) reflexive

/-- Entries that agree still do when each side is arranged in its own way. -/
theorem Agree.arrange {same : α → β → Prop} {left : Entries α} {right : Entries β}
    {leftLayout rightLayout : List String} (agree : Agree same left right)
    (distinctLeft : (keys left).Nodup) (distinctRight : (keys right).Nodup)
    (leftLayoutDistinct : leftLayout.Nodup) (rightLayoutDistinct : rightLayout.Nodup) :
    Agree same (Entries.arrange left leftLayout) (Entries.arrange right rightLayout) := by
  refine (iff_rel_lookup (nodup_keys_arrange distinctLeft leftLayoutDistinct)
    (nodup_keys_arrange distinctRight rightLayoutDistinct)).2 fun key => ?_
  rw [lookup_arrange, lookup_arrange]
  exact agree.rel_lookup distinctLeft key

/-- Leaving out keys and arranging can change places. -/
theorem filter_arrange (keep : String → Bool) (entries : Entries α) (layout : List String) :
    (arrange entries layout).filter (fun entry => keep entry.1) =
      arrange (entries.filter fun entry => keep entry.1) layout := by
  rw [arrange, arrange, List.filter_append]
  congr 1
  · rw [List.filter_filterMap]
    apply List.filterMap_congr
    intro key _
    rw [lookup_filter]
    cases entries.lookup key with
    | none => simp
    | some value => by_cases kept : keep key <;> simp [kept]
  · rw [List.filter_filter, List.filter_filter]
    simp only [Bool.and_comm]

/-- Entries arranged by the keys of others with the same keys have them in the same order. -/
theorem keys_arrange_keys {entries : Entries α} {others : Entries β}
    (sameKeys : ∀ key, key ∈ keys entries ↔ key ∈ keys others) :
    keys (arrange entries (keys others)) = keys others := by
  have allListed : (keys others).filter (contains entries) = keys others :=
    List.filter_eq_self.2 fun key member => (contains_iff entries key).2 ((sameKeys key).2 member)
  have noneLeft : (keys entries).filter (fun key => !(keys others).contains key) = [] := by
    rw [List.filter_eq_nil_iff]
    intro key member
    simp [(sameKeys key).1 member]
  rw [keys_arrange, allListed, noneLeft, List.append_nil]

/-- Entries arranged by the keys of others with the same look-ups are those others. -/
theorem arrange_keys_of_lookup {entries others : Entries α} (distinct : (keys others).Nodup)
    (sameValues : ∀ key, entries.lookup key = others.lookup key) :
    arrange entries (keys others) = others := by
  have sameKeys : keys (arrange entries (keys others)) = keys others := by
    apply keys_arrange_keys
    intro key
    rw [← isSome_lookup_iff, sameValues, isSome_lookup_iff]
  apply ext_of_keys
  · rw [sameKeys]
    exact distinct
  · exact sameKeys
  · intro key _
    rw [lookup_arrange, sameValues]

/-- Entries are in the order of their own keys, also when some are left out. -/
theorem arrange_filter_keys {entries : Entries α} (distinct : (keys entries).Nodup)
    (keep : String → Bool) :
    arrange (entries.filter fun entry => keep entry.1) (keys entries) =
      entries.filter fun entry => keep entry.1 := by
  rw [← filter_arrange, arrange_keys_of_lookup distinct fun _ => rfl]

/-! ## Arrangement key by key -/

@[simp]
theorem arrange_nil (entries : Entries α) : arrange entries [] = entries := by
  simp [arrange]

theorem erase_eq_filter {entries : Entries α} (distinct : (keys entries).Nodup) (key : String) :
    erase entries key = entries.filter fun entry => !(entry.1 == key) := by
  induction entries with
  | nil => rfl
  | cons entry rest inductionHypothesis =>
      obtain ⟨first, value⟩ := entry
      obtain ⟨fresh, distinctRest⟩ := List.nodup_cons.1 distinct
      by_cases atFirst : first = key
      · subst atFirst
        have others : rest.filter (fun entry => !(entry.1 == first)) = rest := by
          apply List.filter_eq_self.2
          intro entry member
          have different : entry.1 ≠ first := ne_of_mem_of_not_mem (key_mem member) fresh
          simp [different]
        simp [erase, others]
      · simp [erase, atFirst, inductionHypothesis distinctRest]

theorem arrange_cons_of_none {entries : Entries α} {key : String}
    (absent : entries.lookup key = none) (rest : List String) :
    arrange entries (key :: rest) = arrange entries rest := by
  have unlisted : ∀ entry ∈ entries,
      (!(key :: rest).contains entry.1) = !rest.contains entry.1 := by
    intro entry member
    have different : entry.1 ≠ key :=
      ne_of_mem_of_not_mem (key_mem member) ((lookup_eq_none_iff entries key).1 absent)
    simp [different]
  rw [arrange, arrange, List.filterMap_cons, absent, List.filter_congr unlisted]
  rfl

theorem arrange_cons_of_some {entries : Entries α} (distinct : (keys entries).Nodup)
    {key : String} {value : α} (found : entries.lookup key = some value) {rest : List String}
    (once : key ∉ rest) :
    arrange entries (key :: rest) = (key, value) :: arrange (erase entries key) rest := by
  have sameLookups : ∀ listed ∈ rest,
      (entries.lookup listed).map (listed, ·) =
        ((erase entries key).lookup listed).map (listed, ·) := by
    intro listed member
    have different : listed ≠ key := fun same => once (same ▸ member)
    rw [lookup_erase distinct, if_neg different]
  have others : (erase entries key).filter (fun entry => !rest.contains entry.1) =
      entries.filter fun entry => !(key :: rest).contains entry.1 := by
    rw [erase_eq_filter distinct, List.filter_filter]
    refine List.filter_congr fun entry _ => ?_
    rw [List.contains_cons, Bool.not_or, Bool.and_comm]
  rw [arrange, arrange, List.filterMap_cons, found, others, List.filterMap_congr sameLookups]
  rfl

/-- What is moved key by key is what the layout puts first. -/
theorem drain_eq_append_arrange {ordered entries : Entries α} {layout : List String}
    (distinct : (keys entries).Nodup) (layoutDistinct : layout.Nodup)
    (fresh : ∀ key ∈ keys entries, key ∉ keys ordered) :
    drain ordered entries layout = ordered ++ arrange entries layout := by
  induction layout generalizing ordered entries with
  | nil => rw [drain, arrange_nil, extend_eq_append distinct fresh]
  | cons key rest inductionHypothesis =>
      obtain ⟨once, restDistinct⟩ := List.nodup_cons.1 layoutDistinct
      cases found : entries.lookup key with
      | none =>
          rw [arrange_cons_of_none found, drain, takeOut?, found, Option.map_none]
          exact inductionHypothesis distinct restDistinct fresh
      | some value =>
          have listed : key ∈ keys entries := by
            rw [← isSome_lookup_iff, found, Option.isSome_some]
          rw [arrange_cons_of_some distinct found once, drain, takeOut?, found, Option.map_some]
          refine (inductionHypothesis (nodup_keys_erase distinct key) restDistinct ?_).trans ?_
          · intro other member inOrdered
            rw [keys_erase, distinct.mem_erase_iff] at member
            rw [insert_eq_append (fresh key listed), keys_append, List.mem_append] at inOrdered
            rcases inOrdered with inOrdered | atKey
            · exact fresh other member.2 inOrdered
            · exact member.1 (List.mem_singleton.1 atKey)
          · rw [insert_eq_append (fresh key listed), List.append_assoc]
            rfl

/-- Entries brought into a layout that lists no key twice are arranged by it. -/
theorem reorder_eq_arrange {entries : Entries α} {layout : List String}
    (distinct : (keys entries).Nodup) (layoutDistinct : layout.Nodup) :
    reorder entries layout = arrange entries layout := by
  rw [reorder]
  split
  · next empty => rw [List.isEmpty_iff.1 empty, arrange_nil]
  · rw [drain_eq_append_arrange distinct layoutDistinct fun key _ => List.not_mem_nil]
    rfl

end Recast.Entries
