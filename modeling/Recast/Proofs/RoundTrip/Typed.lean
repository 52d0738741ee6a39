import Recast.Proofs.RoundTrip.Returning

/-!
# Writing a record and reading it again

A record that was set up and changed by hand need not be what any input is read as.  It can still
be written and read again as an equal record, on condition that nothing in it is ambiguous when it
is written: a missing value must not stand where a default would be read, an untyped `null` must
not stand where it would be read as a missing value, and no kept entry may be named like a field.
-/

namespace Recast

variable {Payload : Type} [BEq Payload]

/-! ## Conditions -/

/-- The untyped form of a payload is never `null`, and the hook makes an equal payload of it. -/
def Hook.Lawful (hook : Hook Payload) : Prop :=
  ∀ payload raw, hook.unstructurePayload? payload = some raw →
    raw.isNull = false ∧
      ∃ again, hook.structurePayload raw = .ok again ∧ (again == payload) = true

/-- No untyped `null` stands where the type is optional. -/
def TypeExpr.WithoutRawNull : TypeExpr → Typed Payload → Prop
  | .optional inner, value => value ≠ .raw .null ∧ inner.WithoutRawNull value
  | .sequence item, .sequence items => ∀ part ∈ items, item.WithoutRawNull part
  | .set item, .set items => ∀ part ∈ items, item.WithoutRawNull part
  | .mapping _ type, .mapping entries => ∀ entry ∈ entries, type.WithoutRawNull entry.2
  | _, _ => True

/-- Nothing in the record is ambiguous when it is written. -/
structure Record.Unambiguous (record : Record (Typed Payload)) : Prop where
  /-- An optional field is only missing where nothing else is its default. -/
  missingIsDefault : ∀ field ∈ record.recordType.fields, field.type.isOptional = true →
    record.get? field.name = some .missing → ∀ default, field.default? = some default →
      default.typed = .missing
  withoutRawNull : ∀ field ∈ record.recordType.fields, ∀ value,
    record.get? field.name = some value → field.type.WithoutRawNull value
  undeclared : record.recordType.Undeclared record.extras

omit [BEq Payload] in
theorem Record.Unambiguous.fallback?_of_missing {record : Record (Typed Payload)}
    (unambiguous : record.Unambiguous) {field : Field (Typed Payload)}
    (member : field ∈ record.recordType.fields) (optional : field.type.isOptional = true)
    (missing : record.get? field.name = some .missing) :
    field.fallback? = some .missing := by
  refine (field.fallback?_eq_some_iff .missing).2 ?_
  cases declared : field.default? with
  | none => exact .inr ⟨rfl, optional, rfl⟩
  | some default =>
      exact .inl ⟨default, rfl, unambiguous.missingIsDefault field member optional missing default
        declared⟩

namespace Typed

def UnambiguousHere : Typed Payload → Prop
  | .record held => held.Unambiguous
  | _ => True

/-- Every record in the value is unambiguous. -/
def Unambiguous (value : Typed Payload) : Prop :=
  Everywhere parts UnambiguousHere value

/-- The type of a record is registered, and a custom value is of the kind of its hook. -/
def OwnedHere (registry : Registry Payload) : Typed Payload → Prop
  | .record held => registry.record? held.typeName = some held.recordType
  | .custom name payload =>
      ∃ hook, registry.hook? name = some hook ∧ (hook.unstructurePayload? payload).isSome
  | _ => True

/-- All records and custom values in the value are of types of the registry. -/
def Owned (registry : Registry Payload) (value : Typed Payload) : Prop :=
  Everywhere parts (OwnedHere registry) value

omit [BEq Payload] in
theorem isMissing_eq_false {value : Typed Payload} (notMissing : value ≠ .missing)
    (notNull : value ≠ .raw .null) :
    value.isMissing = false := by
  cases value with
  | missing => contradiction
  | raw value =>
      cases value with
      | null => contradiction
      | _ => rfl
  | _ => rfl

/-- What is admitted as a record is a record of the registered type of this name, with an admitted
value for each field. -/
theorem exists_table_of_admits {registry : Registry Payload} {name : String}
    {value : Typed Payload} (admitted : (TypeExpr.record name).admits value = true)
    (regular : value.Regular) (owned : value.Owned registry) :
    ∃ recordType valueOf extras? layout,
      value = .record ⟨recordType, recordType.table valueOf, extras?, layout⟩ ∧
        registry.record? name = some recordType ∧
        ∀ field ∈ recordType.fields, valueOf field ∈ value.parts ∧ field.type.TextKeyed ∧
          field.type.admits (valueOf field) = true := by
  obtain ⟨⟨recordType, values, extras?, layout⟩, rfl, sameName⟩ :=
    (TypeExpr.admits_record_iff name value).1 admitted
  have here := regular.here
  obtain ⟨valueOf, tabulated, accepted⟩ := here.filled
  change values = recordType.table valueOf at tabulated
  subst tabulated
  have registered : registry.record? name = some recordType := by
    rw [← sameName]
    exact owned.here
  exact ⟨recordType, valueOf, extras?, layout, rfl, registered, fun field member =>
    ⟨mem_parts_table valueOf extras? layout member, here.wellDeclared.textKeyed field member,
      (accepted field member).2⟩⟩

end Typed

/-! ## Unambiguous values are settled -/

/-- The payload that comes back equals the one that was written. -/
def EqualPayload (payload again : Payload) : Prop :=
  (again == payload) = true

theorem settled_of_admits {registry : Registry Payload}
    (lawful : ∀ name hook, registry.hook? name = some hook → hook.Lawful)
    {type : TypeExpr} {value : Typed Payload} (textKeyed : type.TextKeyed)
    (admitted : type.admits value = true) (withoutRawNull : type.WithoutRawNull value)
    (regular : value.Regular) (owned : value.Owned registry) (unambiguous : value.Unambiguous) :
    Settled registry EqualPayload type value := by
  induction type, value using TypeExpr.inductionWithParts Typed.partsInduction with
  | optional inner value inductionHypothesis =>
      by_cases missing : value = .missing
      · rw [missing]
        exact .missing inner
      · have innerAdmitted := ((TypeExpr.admits_optional_iff inner value).1 admitted).resolve_left
          missing
        exact .optional (Typed.isMissing_eq_false missing withoutRawNull.1)
          (inductionHypothesis textKeyed innerAdmitted withoutRawNull.2 regular owned unambiguous)
  | scalar kind value =>
      cases kind <;> cases value <;>
        first
          | contradiction
          | constructor
  | any value =>
      obtain ⟨raw, rfl⟩ := (TypeExpr.admits_any_iff value).1 admitted
      exact .any raw
  | sequence item value inductionHypothesis =>
      obtain ⟨items, rfl, each⟩ := (TypeExpr.admits_sequence_iff item value).1 admitted
      exact .sequence fun part member =>
        inductionHypothesis part member item textKeyed (each part member)
          (withoutRawNull part member) (regular.inside member) (owned.inside member)
          (unambiguous.inside member)
  | set item value inductionHypothesis =>
      obtain ⟨items, rfl, each, _⟩ := (TypeExpr.admits_set_iff item value).1 admitted
      exact .set fun part member =>
        inductionHypothesis part member item textKeyed (each part member)
          (withoutRawNull part member) (regular.inside member) (owned.inside member)
          (unambiguous.inside member)
  | mapping key type value inductionHypothesis =>
      obtain ⟨entries, rfl, each⟩ := (TypeExpr.admits_mapping_iff key type value).1 admitted
      obtain ⟨rfl, valueKeyed⟩ := textKeyed
      refine .mapping fun entry member => ?_
      have partMember := Typed.mem_parts_mapping member
      exact inductionHypothesis entry.2 partMember type valueKeyed (each entry member)
        (withoutRawNull entry member) (regular.inside partMember) (owned.inside partMember)
        (unambiguous.inside partMember)
  | record name value inductionHypothesis =>
      obtain ⟨recordType, valueOf, extras?, layout, rfl, registered, each⟩ :=
        Typed.exists_table_of_admits admitted regular owned
      have here := regular.here
      have held : ∀ field ∈ recordType.fields,
          (recordType.table valueOf).lookup field.name = some (valueOf field) :=
        fun field member => RecordType.lookup_table here.wellDeclared.distinct valueOf member
      refine .record registered here unambiguous.here.undeclared ?_ ?_
      · intro field member optional missing
        have found := held field member
        rw [missing] at found
        exact unambiguous.here.fallback?_of_missing member optional found
      · intro field member
        obtain ⟨partMember, valueKeyed, valueAdmitted⟩ := each field member
        exact inductionHypothesis (valueOf field) partMember field.type valueKeyed valueAdmitted
          (unambiguous.here.withoutRawNull field member _ (held field member))
          (regular.inside partMember) (owned.inside partMember)
          (unambiguous.inside partMember)
  | custom name value =>
      obtain ⟨payload, rfl⟩ := (TypeExpr.admits_custom_iff name value).1 admitted
      obtain ⟨hook, found, ofKind⟩ := owned.here
      obtain ⟨raw, written⟩ := Option.isSome_iff_exists.1 ofKind
      obtain ⟨notNull, again, read, same⟩ := lawful name hook found payload raw written
      exact .custom found written notNull read same

/-! ## What comes back is equal -/

variable [PartialEquivBEq Payload]

omit [BEq Payload] [PartialEquivBEq Payload] in
/-- Arranging kept entries does not change what they equal. -/
theorem extras_equal_arrange {extras? : Option (Entries Value)} {layout : List String}
    (wellFormed : (Value.map (extras?.getD [])).WellFormed)
    (noNaN : (Value.map (extras?.getD [])).NaNFree) (layoutDistinct : layout.Nodup) :
    (Value.map (extras?.getD [])).equal
      (.map ((extras?.map (Entries.arrange · layout)).getD [])) = true := by
  cases extras? with
  | none => exact (Value.equal_self_iff wellFormed).2 noNaN
  | some extras =>
      obtain ⟨distinct, valuesWellFormed⟩ := (Value.wellFormed_map_iff extras).1 wellFormed
      refine (Value.equal_map_iff _ _).2 (Entries.agree_arrange distinct layoutDistinct ?_)
      intro entry member
      exact (Value.equal_self_iff (valuesWellFormed entry member)).2
        ((Value.nanFree_map_iff extras).1 noNaN entry member)

/-- A regular value without NaN equals what it comes back as. -/
theorem Reread.equal {value again : Typed Payload} (reread : Reread EqualPayload value again)
    (regular : value.Regular) (noNaN : value.NaNFree) :
    value.equal again = true := by
  induction reread with
  | missing => rfl
  | bool truth => exact BEq.rfl
  | int number => exact BEq.rfl
  | float number => exact (Binary64.equal_self_iff number).2 noNaN.here
  | str text => exact BEq.rfl
  | raw value => exact (Value.equal_self_iff regular.here).2 noNaN.here
  | sequence again _ inductionHypothesis =>
      rw [Typed.equal_sequence_iff, List.forall₂_map_right_iff, List.forall₂_same]
      exact fun item member =>
        inductionHypothesis item member (regular.inside member) (noNaN.inside member)
  | set again _ inductionHypothesis =>
      rw [Typed.equal_set_iff, List.forall₂_map_right_iff, List.forall₂_same]
      exact fun item member =>
        inductionHypothesis item member (regular.inside member) (noNaN.inside member)
  | @mapping entries again _ inductionHypothesis =>
      refine (Typed.equal_mapping_iff _ _).2 (.mapValues_self regular.here ?_)
      intro entry member
      have partMember := Typed.mem_parts_mapping member
      exact inductionHypothesis entry member (regular.inside partMember) (noNaN.inside partMember)
  | @record recordType valueOf again extras? layout later _ inductionHypothesis =>
      have here := regular.here
      have extrasDistinct := ((Value.wellFormed_map_iff _).1 here.extrasWellFormed).1
      refine (Typed.equal_record_iff _ _).2 ⟨rfl, ?_, (Typed.extrasEqual_iff _ _).2 ⟨?_, ?_⟩⟩
      · apply Entries.agree_tabulate here.wellDeclared.distinct
        intro field member
        have partMember := Typed.mem_parts_table valueOf extras? layout member
        exact inductionHypothesis field member (regular.inside partMember)
          (noNaN.inside partMember)
      · exact Option.isSome_map.symm
      · exact extras_equal_arrange here.extrasWellFormed noNaN.here here.layoutDistinct
  | custom name same =>
      rw [Typed.equal, Bool.and_eq_true]
      exact ⟨BEq.rfl, BEq.symm same⟩

/-- Items that come back as equal ones were equal. -/
theorem setsStayDistinct_of_nanFree {value : Typed Payload} (regular : value.Regular)
    (noNaN : value.NaNFree) :
    SetsStayDistinct EqualPayload value := by
  intro items occurs again reread
  have distinct := (Typed.allDistinct_iff items).1 (regular _ occurs)
  have comesBack : ∀ item ∈ items, item.equal (again item) = true := fun item member =>
    (reread item member).equal ((regular.within occurs).inside member)
      ((noNaN.within occurs).inside member)
  have wellFormed : ∀ item ∈ items, item.WellFormed := fun item member =>
    regular.wellFormed.within occurs |>.inside member
  rw [Typed.allDistinct_iff, List.pairwise_map]
  refine distinct.imp_of_mem ?_
  intro earlier later earlierMember laterMember different
  calc
    (again earlier).equal (again later) = earlier.equal later :=
      (Typed.equal_congr (wellFormed earlier earlierMember) (wellFormed later laterMember)
        (comesBack earlier earlierMember) (comesBack later laterMember)).symm
    _ = false := different

/-- Every reached record of registered types that holds no NaN and is unambiguous is written, and
what is written is read as an equal record. -/
theorem typed_round_trip {registry : Registry Payload}
    (lawful : ∀ name hook, registry.hook? name = some hook → hook.Lawful)
    {record : Record (Typed Payload)} (reached : Reached record)
    (owned : (Typed.record record).Owned registry) (noNaN : (Typed.record record).NaNFree)
    (unambiguous : (Typed.record record).Unambiguous) :
    ∃ raw again, registry.unstructureRecord .written record = .ok raw ∧
      registry.structureRecord record.typeName raw = .ok again ∧
      (Typed.record again == Typed.record record) = true := by
  have regular := reached.regular
  have admitted : (TypeExpr.record record.typeName).admits (.record record) = true :=
    (TypeExpr.admits_record_iff _ _).2 ⟨record, rfl, rfl⟩
  have textKeyed : (TypeExpr.record record.typeName).TextKeyed := trivial
  have withoutRawNull : (TypeExpr.record record.typeName).WithoutRawNull (.record record) :=
    trivial
  have settled :=
    settled_of_admits lawful textKeyed admitted withoutRawNull regular owned unambiguous
  obtain ⟨raw, again, returned⟩ :=
    settled.returns (setsStayDistinct_of_nanFree regular noNaN)
  have equal := returned.reread.equal regular noNaN
  have read := returned.read
  obtain ⟨_, later, _, _, rfl⟩ :=
    (Registry.structureAs_record_eq_ok_iff registry record.typeName _ _).1 read
  exact ⟨raw, later, returned.written,
    (Registry.structureAs_record_iff registry record.typeName raw later).1 read,
    Typed.equal_symm regular.wellFormed equal⟩

namespace Sample

theorem lawful_tagHook : tagHook.Lawful := by
  intro payload raw written
  cases written
  exact ⟨rfl, payload, rfl, BEq.rfl⟩

/-- What holds of the pet itself and of the values of its fields holds everywhere in it. -/
theorem everywhere_pet {holds : Typed String → Prop} (here : holds (.record pet))
    (name : holds (.str "Tom")) (age : holds (.int 1)) (tag : holds (.custom "Tag" "T-1")) :
    Everywhere Typed.parts holds (.record pet) := by
  refine (Typed.everywhere_record_iff pet).2 ⟨here, ?_⟩
  simp only [pet, List.forall_mem_cons, List.not_mem_nil, false_implies, implies_true, and_true]
  exact ⟨(Typed.everywhere_of_parts_eq_nil rfl).2 name,
    (Typed.everywhere_of_parts_eq_nil rfl).2 age, (Typed.everywhere_of_parts_eq_nil rfl).2 tag⟩

theorem owned_pet : (Typed.record pet).Owned registry :=
  everywhere_pet rfl trivial trivial ⟨tagHook, rfl, rfl⟩

theorem nanFree_pet : (Typed.record pet).NaNFree := by
  refine everywhere_pet ?_ trivial trivial trivial
  refine (Value.nanFree_map_iff pet.extras).2 (List.forall_mem_singleton.2 ?_)
  exact (Value.nanFree_of_parts_eq_nil rfl).2 rfl

theorem unambiguous_pet : (Typed.record pet).Unambiguous := by
  refine everywhere_pet ⟨?_, ?_, ?_⟩ trivial trivial trivial
  · simp [pet, petType, TypeExpr.isOptional, Record.get?, List.lookup_cons]
  · simp [pet, petType, TypeExpr.WithoutRawNull, Record.get?, List.lookup_cons]
  · simp [pet, petType, RecordType.Undeclared, Record.extras, RecordType.declares,
      RecordType.field?]

/-- The pet is written and read again as an equal pet. -/
theorem typed_round_trip_pet :
    Reached pet ∧ (Typed.record pet).Unambiguous ∧
      ∃ raw again, registry.unstructureRecord .written pet = .ok raw ∧
        registry.structureRecord "Pet" raw = .ok again ∧
        (Typed.record again == Typed.record pet) = true := by
  have lawful : ∀ name hook, registry.hook? name = some hook → hook.Lawful := by
    intro name hook found
    rw [eq_tagHook_of_hook? found]
    exact lawful_tagHook
  exact ⟨reached_pet, unambiguous_pet,
    typed_round_trip lawful reached_pet owned_pet nanFree_pet unambiguous_pet⟩

end Sample

end Recast
