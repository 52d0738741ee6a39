import Recast.Proofs.RoundTrip.Complete
import Recast.Proofs.RoundTrip.Settled

/-!
# Reading an untyped value and writing it again

Where reading gives away nothing, writing what was read gives an equal value back, and every open
record is written with its keys in the order that they had.  The proof follows what the value
denotes: the value written for a part agrees with the part, so the value written for a whole
agrees with the whole, and the entries of a record fall into declared fields and kept entries.
-/

namespace Recast

variable {Payload : Type} [BEq Payload]

namespace Registry

variable {registry : Registry Payload}

/-- Every open record in the value is written with its keys in the order that they had. -/
def KeepsKeyOrder (registry : Registry Payload) (type : TypeExpr) (raw written : Value) : Prop :=
  ∀ path name part recordType, registry.Place type raw path (.record name) part →
    registry.record? name = some recordType → recordType.isOpen = true →
      ∃ entries later, part = .map entries ∧ written.follow? path = some (.map later) ∧
        Entries.keys later = Entries.keys entries

/-- What was read from the raw value is written as an equal one, with key orders kept. -/
structure Restores (registry : Registry Payload) (type : TypeExpr) (raw : Value)
    (value : Typed Payload) (written : Value) : Prop where
  ok : registry.unstructure .written value = .ok written
  equal : raw.equal written = true
  keepsKeyOrder : registry.KeepsKeyOrder type raw written

theorem Restores.of_exists {type : TypeExpr} {raw : Value} {value : Typed Payload}
    (restores : ∃ written, registry.Restores type raw value written) :
    registry.Restores type raw value (registry.rawOf value) := by
  obtain ⟨written, restored⟩ := restores
  rw [rawOf_eq restored.ok]
  exact restored

end Registry

/-! ## Containers -/

namespace Registry.Restores

variable {registry : Registry Payload} {item type : TypeExpr} {items : List Value}
  {entries : Entries Value} {valueOf : Value → Typed Payload}

omit [BEq Payload] in
theorem follow?_map {change : Value → Value} {position : Nat} {raw : Value}
    (found : items[position]? = some raw) (path : List Value.Step) :
    (Value.array (items.map change)).follow? (.item position :: path) =
      (change raw).follow? path := by
  rw [Value.follow?, List.getElem?_map, found]
  rfl

omit [BEq Payload] in
theorem equal_map {change : Value → Value}
    (each : ∀ raw ∈ items, raw.equal (change raw) = true) :
    (Value.array items).equal (.array (items.map change)) = true := by
  rw [Value.equal, Value.equalItems_iff, List.forall₂_map_right_iff, List.forall₂_same]
  exact each

theorem sequence
    (each : ∀ raw ∈ items, ∃ written, registry.Restores item raw (valueOf raw) written) :
    ∃ written, registry.Restores (.sequence item) (.array items)
      (.sequence (items.map valueOf)) written := by
  have parts := fun raw member => of_exists (each raw member)
  let writtenOf := fun raw => registry.rawOf (valueOf raw)
  refine ⟨.array (items.map writtenOf), ?_, equal_map fun raw member =>
    (parts raw member).equal, ?_⟩
  · rw [unstructure_sequence_eq_ok (List.forall_mem_map.2 fun raw member =>
      (parts raw member).ok), List.map_map]
    rfl
  · intro path name part recordType place registered isOpen
    cases place with
    | item found inner =>
        rw [follow?_map found]
        exact (parts _ (List.mem_of_getElem? found)).keepsKeyOrder _ name part recordType inner
          registered isOpen

theorem set
    (each : ∀ raw ∈ items, ∃ written, registry.Restores item raw (valueOf raw) written)
    (distinct : Typed.allDistinct (items.map valueOf) = true) :
    ∃ written, registry.Restores (.set item) (.array items)
      (.set (Typed.keepDistinct [] (items.map valueOf))) written := by
  have parts := fun raw member => of_exists (each raw member)
  let writtenOf := fun raw => registry.rawOf (valueOf raw)
  rw [Typed.keepDistinct_eq_self distinct]
  refine ⟨.array (items.map writtenOf), ?_, equal_map fun raw member =>
    (parts raw member).equal, ?_⟩
  · rw [unstructure_set_eq_ok (List.forall_mem_map.2 fun raw member =>
      (parts raw member).ok), List.map_map]
    rfl
  · intro path name part recordType place registered isOpen
    cases place with
    | element found inner =>
        rw [follow?_map found]
        exact (parts _ (List.mem_of_getElem? found)).keepsKeyOrder _ name part recordType inner
          registered isOpen

theorem mapping (distinct : (Entries.keys entries).Nodup)
    (each : ∀ entry ∈ entries,
      ∃ written, registry.Restores type entry.2 (valueOf entry.2) written) :
    ∃ written, registry.Restores (.mapping .str type) (.map entries)
      (.mapping (Entries.mapValues valueOf entries)) written := by
  have parts := fun entry member => of_exists (each entry member)
  let writtenOf := fun raw => registry.rawOf (valueOf raw)
  refine ⟨.map (Entries.mapValues writtenOf entries), ?_, ?_, ?_⟩
  · have computed : ∀ entry ∈ Entries.mapValues valueOf entries,
        registry.unstructure .written entry.2 = .ok (registry.rawOf entry.2) :=
      List.forall_mem_map.2 fun entry member => (parts entry member).ok
    rw [unstructure_mapping_eq_ok computed, Entries.mapValues, Entries.mapValues, List.map_map]
    rfl
  · exact (Value.equal_map_iff _ _).2 (.mapValues_self distinct fun entry member =>
      (parts entry member).equal)
  · intro path name part recordType place registered isOpen
    cases place with
    | entry found inner =>
        rw [Value.follow?, Entries.lookup_mapValues, found]
        exact (parts _ (Entries.mem_of_lookup found)).keepsKeyOrder _ name part recordType inner
          registered isOpen

end Registry.Restores

/-! ## Records -/

namespace RecordType

variable {recordType : RecordType (Typed Payload)} {entries : Entries Value}
  {valueOf : Field (Typed Payload) → Typed Payload} {rawOf : Field (Typed Payload) → Value}

omit [BEq Payload] in
/-- What steps in for a `null` is the missing value. -/
theorem CompleteIn.eq_missing_of_null (complete : recordType.CompleteIn entries)
    {field : Field (Typed Payload)} (member : field ∈ recordType.fields)
    (optional : field.type.isOptional = true) (found : entries.lookup field.name = some .null)
    {value : Typed Payload} (fallback : field.fallback? = some value) :
    value = .missing := by
  rcases (field.fallback?_eq_some_iff value).1 fallback with
    ⟨default, declared, rfl⟩ | ⟨_, _, isMissing⟩
  · by_contra notMissing
    exact complete.notNull field member optional default declared notMissing found
  · exact isMissing

omit [BEq Payload] in
/-- Keys that are not declared are written with the values that they had. -/
theorem lookup_overlay_of_not_declared (complete : recordType.CompleteIn entries) {key : String}
    (notDeclared : recordType.declares key = false) :
    (recordType.overlay (recordType.reading valueOf entries).extras rawOf).lookup key =
      entries.lookup key := by
  have notField : (recordType.table rawOf).lookup key = none := by
    rw [Entries.lookup_eq_none_iff, keys_table, ← declares_iff, notDeclared]
    exact Bool.false_ne_true
  rw [overlay, List.lookup_append, notField, Option.or_none, Record.extras, reading]
  cases isOpen : recordType.isOpen with
  | true =>
      rw [if_pos rfl, Option.getD_some, Entries.lookup_filter fun key => !recordType.declares key,
        notDeclared]
      rfl
  | false =>
      refine ((Entries.lookup_eq_none_iff entries key).2 ?_).symm
      intro present
      rw [complete.onlyDeclared isOpen key present] at notDeclared
      contradiction

omit [BEq Payload] in
/-- What is written has the keys that were read. -/
theorem mem_keys_overlay_iff (distinct : recordType.DistinctFields)
    (complete : recordType.CompleteIn entries) (key : String) :
    key ∈ Entries.keys
        (recordType.overlay (recordType.reading valueOf entries).extras rawOf) ↔
      key ∈ Entries.keys entries := by
  cases declared : recordType.declares key with
  | true =>
      obtain ⟨field, member, rfl⟩ := List.mem_map.1 ((declares_iff key).1 declared)
      have written :=
        lookup_overlay_field distinct (undeclared_reading valueOf entries) rawOf member
      exact iff_of_true (Entries.key_mem (Entries.mem_of_lookup written))
        (complete.present field member)
  | false =>
      rw [← Entries.isSome_lookup_iff, lookup_overlay_of_not_declared complete declared,
        Entries.isSome_lookup_iff]

/-- The entries that were read agree with those that are written. -/
theorem agree_overlay (regular : (recordType.reading valueOf entries).Regular)
    (wellFormed : (Value.map entries).WellFormed) (noNaN : (Value.map entries).NaNFree)
    (complete : recordType.CompleteIn entries)
    (each : ∀ field ∈ recordType.fields, ∀ raw, entries.lookup field.name = some raw →
      raw.equal (rawOf field) = true) :
    Entries.Agree (fun raw written => raw.equal written = true) entries
      (Entries.arrange (recordType.overlay (recordType.reading valueOf entries).extras rawOf)
        (recordType.reading valueOf entries).layout) := by
  obtain ⟨entriesDistinct, valuesWellFormed⟩ := (Value.wellFormed_map_iff entries).1 wellFormed
  have distinct : recordType.DistinctFields := regular.wellDeclared.distinct
  have extrasDistinct := ((Value.wellFormed_map_iff _).1 regular.extrasWellFormed).1
  have undeclared : recordType.Undeclared (recordType.reading valueOf entries).extras :=
    undeclared_reading valueOf entries
  apply Entries.Agree.of_lookup entriesDistinct
  · exact Entries.nodup_keys_arrange
      (nodup_keys_overlay distinct extrasDistinct undeclared rawOf) regular.layoutDistinct
  · intro key member
    rw [← Entries.isSome_lookup_iff, Entries.lookup_arrange, Entries.isSome_lookup_iff] at member
    exact (mem_keys_overlay_iff distinct complete key).1 member
  · intro entry member
    have found := Entries.lookup_of_mem entriesDistinct member
    rw [Entries.lookup_arrange]
    cases declared : recordType.declares entry.1 with
    | true =>
        obtain ⟨field, fieldMember, sameName⟩ := List.mem_map.1 ((declares_iff entry.1).1 declared)
        rw [← sameName] at found ⊢
        exact ⟨rawOf field, lookup_overlay_field distinct undeclared rawOf fieldMember,
          each field fieldMember entry.2 found⟩
    | false =>
        refine ⟨entry.2, ?_, ?_⟩
        · rw [lookup_overlay_of_not_declared complete declared, found]
        · exact (Value.equal_self_iff (valuesWellFormed entry member)).2
            ((Value.nanFree_map_iff entries).1 noNaN entry member)

end RecordType

namespace Registry

variable {alphabet : Text.Alphabet} {registry : Registry Payload}

theorem Restores.record {name : String} {recordType : RecordType (Typed Payload)}
    {entries : Entries Value} {valueOf : Field (Typed Payload) → Typed Payload}
    (registered : registry.record? name = some recordType)
    (regular : (recordType.reading valueOf entries).Regular)
    (wellFormed : (Value.map entries).WellFormed) (noNaN : (Value.map entries).NaNFree)
    (complete : recordType.CompleteIn entries)
    (each : ∀ field ∈ recordType.fields, ∀ raw, entries.lookup field.name = some raw →
      ∃ written, registry.Restores field.type raw (valueOf field) written) :
    ∃ written, registry.Restores (.record name) (.map entries)
      (.record (recordType.reading valueOf entries)) written := by
  have parts := fun field member raw found => of_exists (each field member raw found)
  let rawOf := fun field => registry.rawOf (valueOf field)
  have distinct : recordType.DistinctFields := regular.wellDeclared.distinct
  have extrasDistinct := ((Value.wellFormed_map_iff _).1 regular.extrasWellFormed).1
  have undeclared : recordType.Undeclared (recordType.reading valueOf entries).extras :=
    RecordType.undeclared_reading valueOf entries
  have computed : ∀ field ∈ recordType.fields,
      registry.unstructure .written (valueOf field) = .ok (rawOf field) := by
    intro field member
    obtain ⟨raw, found⟩ := Entries.exists_lookup_of_mem_keys (complete.present field member)
    exact (parts field member raw found).ok
  refine ⟨.map (Entries.arrange
    (recordType.overlay (recordType.reading valueOf entries).extras rawOf)
    (recordType.reading valueOf entries).layout), ?_, ?_, ?_⟩
  · exact unstructure_record_eq_ok distinct computed extrasDistinct undeclared
      regular.layoutDistinct
  · exact (Value.equal_map_iff _ _).2 (RecordType.agree_overlay regular wellFormed noNaN complete
      fun field member raw found => (parts field member raw found).equal)
  · intro path innerName part innerType place innerRegistered isOpen
    cases place with
    | here =>
        rw [registered, Option.some.injEq] at innerRegistered
        subst innerRegistered
        refine ⟨entries, _, rfl, rfl, ?_⟩
        have layout : (recordType.reading valueOf entries).layout = Entries.keys entries :=
          if_pos isOpen
        rw [layout]
        exact Entries.keys_arrange_keys fun key =>
          RecordType.mem_keys_overlay_iff distinct complete key
    | @field _ _ field _ _ raw _ path found member fieldFound inner =>
        rw [registered, Option.some.injEq] at found
        subst found
        rw [Value.follow?, Entries.lookup_arrange,
          RecordType.lookup_overlay_field distinct undeclared rawOf member]
        exact (parts field member raw fieldFound).keepsKeyOrder path innerName part innerType inner
          innerRegistered isOpen

/-- A `null` that stands for a missing value is written as it was. -/
theorem restores_null (registry : Registry Payload) {type : TypeExpr}
    (optional : type.isOptional = true) :
    registry.Restores type .null .missing .null := by
  obtain ⟨inner, rfl⟩ := TypeExpr.exists_eq_optional optional
  refine ⟨rfl, rfl, ?_⟩
  intro path name part recordType place
  cases place with
  | optional present _ => contradiction

/-- What a value denotes is written as an equal value where reading gives away nothing. -/
theorem Structures.restores (coherent : registry.Coherent) {type : TypeExpr} {raw : Value}
    {value : Typed Payload} (structures : registry.Structures type raw value)
    (noCustom : registry.ReachesNoCustom type) (wellFormed : raw.WellFormed)
    (noNaN : raw.NaNFree) (complete : registry.Complete type raw) :
    ∃ written, registry.Restores type raw value written := by
  induction structures with
  | missing inner => exact ⟨.null, registry.restores_null rfl⟩
  | @optional inner raw value present _ inductionHypothesis =>
      obtain ⟨written, restored⟩ := inductionHypothesis
        (noCustom.inside (List.mem_singleton_self inner)) wellFormed noNaN
        fun path part rest place => complete path part rest (.optional present place)
      refine ⟨written, restored.ok, restored.equal, ?_⟩
      intro path name part recordType place
      cases place with
      | optional _ innerPlace =>
          exact restored.keepsKeyOrder path name part recordType innerPlace
  | str text => exact ⟨.string text, rfl, BEq.rfl, nofun⟩
  | int number => exact ⟨.integer number, rfl, BEq.rfl, nofun⟩
  | float number =>
      exact ⟨.float number, rfl, (Value.equal_self_iff wellFormed).2 noNaN, nofun⟩
  | widened number => exact ⟨.float _, rfl, complete [] _ _ (.here _ _), nofun⟩
  | bool truth => exact ⟨.bool truth, rfl, BEq.rfl, nofun⟩
  | any raw => exact ⟨raw, rfl, (Value.equal_self_iff wellFormed).2 noNaN, nofun⟩
  | @sequence item items valueOf _ inductionHypothesis =>
      rw [Value.wellFormed_array_iff] at wellFormed
      apply Restores.sequence
      intro raw member
      obtain ⟨position, found⟩ := List.mem_iff_getElem?.1 member
      exact inductionHypothesis raw member (noCustom.inside (List.mem_singleton_self item))
        (wellFormed raw member) (noNaN.inside member)
        fun path part rest place => complete _ part rest (.item found place)
  | @set item items valueOf structures inductionHypothesis =>
      rw [Value.wellFormed_array_iff] at wellFormed
      apply Restores.set
      · intro raw member
        obtain ⟨position, found⟩ := List.mem_iff_getElem?.1 member
        exact inductionHypothesis raw member (noCustom.inside (List.mem_singleton_self item))
          (wellFormed raw member) (noNaN.inside member)
          fun path part rest place => complete _ part rest (.element found place)
      · have apart := complete [] _ _ (.here _ _)
        rw [Typed.allDistinct_iff, List.pairwise_map]
        refine List.Pairwise.imp_of_mem ?_ apart
        intro earlier later earlierMember laterMember different
        exact different _ _ (ok_of_structures coherent (structures earlier earlierMember))
          (ok_of_structures coherent (structures later laterMember))
  | @mapping type entries valueOf _ inductionHypothesis =>
      obtain ⟨distinct, valuesWellFormed⟩ := (Value.wellFormed_map_iff entries).1 wellFormed
      apply Restores.mapping distinct
      intro entry member
      have found := Entries.lookup_of_mem distinct member
      exact inductionHypothesis entry member
        (noCustom.inside (List.mem_cons_of_mem _ (List.mem_singleton_self type)))
        (valuesWellFormed entry member) (noNaN.inside (Value.mem_parts_map member))
        fun path part rest place => complete _ part rest (.entry found place)
  | @record name recordType entries valueOf registered given passed filled defaults defaulted
      givenLater _ =>
      have valuesWellFormed := ((Value.wellFormed_map_iff entries).1 wellFormed).2
      have regular := ((Structures.record valueOf registered given passed filled defaults
        defaulted).admits_and_regular coherent wellFormed).2.here
      have completeHere := complete [] _ _ (.here _ _) recordType registered
      apply Restores.record registered regular wellFormed noNaN completeHere
      intro field member raw found
      have input := Field.input?_of_lookup found
      split at input
      · next skipped =>
          rw [Bool.and_eq_true] at skipped
          have isNull : raw = .null := by
            cases raw <;> first | rfl | exact absurd skipped.1 Bool.false_ne_true
          subst isNull
          rw [completeHere.eq_missing_of_null member skipped.2 found (filled field member input)]
          exact ⟨.null, registry.restores_null skipped.2⟩
      · have rawMember := Entries.mem_of_lookup found
        exact givenLater field member raw input
          (noCustom.inside (mem_typeParts_record registered member))
          (valuesWellFormed _ rawMember) (noNaN.inside (Value.mem_parts_map rawMember))
          fun path part rest place => complete _ part rest (.field registered member found place)
  | custom =>
      have isCustom := noCustom.here
      contradiction

/-- Where reading an untyped value gives away nothing, writing what was read gives an equal value,
in which every open record has its keys in the order that they had. -/
theorem raw_round_trip (built : registry.Built alphabet) {type : TypeExpr}
    (noCustom : registry.ReachesNoCustom type) {raw : Value} (wellFormed : raw.WellFormed)
    (noNaN : raw.NaNFree) (complete : registry.Complete type raw) {value : Typed Payload}
    (structured : registry.structureAs raw type = .ok value) :
    ∃ written, registry.unstructure .written value = .ok written ∧ (written == raw) = true ∧
      ∀ path name part recordType, registry.Place type raw path (.record name) part →
        registry.record? name = some recordType → recordType.isOpen = true →
          ∃ entries later, raw.follow? path = some (.map entries) ∧
            written.follow? path = some (.map later) ∧
            Entries.keys later = Entries.keys entries := by
  have structures := structures_of_ok built.coherent structured
  obtain ⟨written, restored⟩ :=
    structures.restores built.coherent noCustom wellFormed noNaN complete
  refine ⟨written, restored.ok, Value.equal_symm wellFormed restored.equal, ?_⟩
  intro path name part recordType place registered isOpen
  obtain ⟨entries, later, rfl, followed, sameKeys⟩ :=
    restored.keepsKeyOrder path name part recordType place registered isOpen
  exact ⟨entries, later, place.follow?_eq, followed, sameKeys⟩

end Registry

namespace Sample

def noteSpec : RecordSpec where
  name := "Note"
  isOpen := true
  fields := [⟨"title", .tree .str, none⟩, ⟨"weight", .tree (.scalar .float), none⟩]

def noteType : RecordType (Typed Unit) where
  name := "Note"
  isOpen := true
  fields := [
    ⟨"title", .str, none, some .nonEmpty⟩,
    ⟨"weight", .scalar .float, none, some .present⟩]

def notes : Registry Unit where
  records := [noteType]

/-- A note with an integer for a weight and with a key that its type does not declare. -/
def noteInput : Value :=
  .map [("colour", .null), ("weight", .integer 2), ("title", .string "Milk")]

def note : Record (Typed Unit) where
  recordType := noteType
  values := [("title", .str "Milk"), ("weight", .float (.ofInt 2))]
  extras? := some [("colour", .null)]
  layout := ["colour", "weight", "title"]

theorem built_notes : notes.Built Text.unicode := by
  have wellFormed : noteSpec.WellFormed := by simp [RecordSpec.WellFormed, noteSpec]
  have declared : Registry.declare Text.unicode {} noteSpec = .ok (noteType, notes) := rfl
  exact .declare .empty wellFormed declared

theorem wellFormed_noteInput : noteInput.WellFormed := by
  simp [noteInput, Value.WellFormed, Value.EntriesWellFormed]

theorem nanFree_noteInput : noteInput.NaNFree := by
  refine (Value.nanFree_map_iff _).2 ?_
  simp only [List.forall_mem_cons, List.not_mem_nil, false_implies, implies_true, and_true]
  exact ⟨(Value.nanFree_of_parts_eq_nil rfl).2 rfl, (Value.nanFree_of_parts_eq_nil rfl).2 rfl,
    (Value.nanFree_of_parts_eq_nil rfl).2 rfl⟩

theorem structureAs_noteInput :
    notes.structureAs noteInput (.record "Note") = .ok (.record note) :=
  rfl

theorem reachesNoCustom_note : notes.ReachesNoCustom (.record "Note") := by
  have scalarReachesNone : ∀ kind : Scalar, notes.ReachesNoCustom (.scalar kind) := fun kind =>
    (Everywhere.iff_and_forall _).2 ⟨rfl, fun _ member => absurd member List.not_mem_nil⟩
  refine (Everywhere.iff_and_forall _).2 ⟨rfl, ?_⟩
  intro part member
  obtain ⟨field, fieldMember, rfl⟩ :=
    List.mem_map.1 (show part ∈ noteType.fields.map Field.type from member)
  simp only [noteType, List.mem_cons, List.not_mem_nil, or_false] at fieldMember
  rcases fieldMember with rfl | rfl <;> exact scalarReachesNone _

theorem complete_noteInput : notes.Complete (.record "Note") noteInput := by
  apply Registry.complete_record (show notes.record? "Note" = some noteType from rfl)
  · exact ⟨by decide, by simp [noteType, TypeExpr.isOptional], nofun⟩
  · intro field member raw found
    simp only [noteType, List.mem_cons, List.not_mem_nil, or_false] at member
    rcases member with rfl | rfl
    · exact Registry.complete_scalar trivial
    · cases found
      exact Registry.complete_scalar rfl

/-- The note is written as it was, the weight as an equal float. -/
theorem raw_round_trip_note :
    notes.structureAs noteInput (.record "Note") = .ok (.record note) ∧
      ∃ written, notes.unstructure .written (.record note) = .ok written ∧
        (written == noteInput) = true := by
  obtain ⟨written, ok, equal, _⟩ := Registry.raw_round_trip built_notes reachesNoCustom_note
    wellFormed_noteInput nanFree_noteInput complete_noteInput structureAs_noteInput
  exact ⟨structureAs_noteInput, written, ok, equal⟩

end Sample

end Recast
