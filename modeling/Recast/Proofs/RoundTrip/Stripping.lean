import Recast.Proofs.RoundTrip.Defaults
import Recast.Proofs.RoundTrip.Rereading
import Recast.Proofs.RoundTrip.Survival

/-!
# Leaving out fields that hold their default

Whether the fields that hold their default are written or left out, at every depth, what is
written is read as an equal record.  A field that is left out is read as its default, which the
value only equals: that this makes no difference rests on the round trip of the value and on
equality being symmetric and transitive.  A missing value of an optional field is written as `null`
in both cases and read as the default of the field, so that default must equal itself; where it
holds NaN, the two records that are read differ.
-/

namespace Recast

variable {Payload : Type} [BEq Payload]

/-! ## All values without NaN -/

/-- Where an optional field of the record has no value, the default that will be read holds no
NaN. -/
def Record.GapsNaNFree (record : Record (Typed Payload)) : Prop :=
  ∀ field ∈ record.recordType.fields, field.type.isOptional = true → ∀ value,
    record.get? field.name = some value → value.isMissing = true →
      ∀ default, field.default? = some default → default.typed.NaNFree

namespace Typed

def GapsNaNFreeHere : Typed Payload → Prop
  | .record held => held.GapsNaNFree
  | _ => True

/-- No optional field without a value, of any record in the value, has a default that holds NaN. -/
def GapsNaNFree (value : Typed Payload) : Prop :=
  Everywhere parts GapsNaNFreeHere value

end Typed

section Survival

variable [PartialEquivBEq Payload] {alphabet : Text.Alphabet} {registry : Registry Payload}

/-- What equals a declared default comes back as something that equals the default. -/
theorem Registry.Built.rereadOf_equal_default (built : registry.Built alphabet)
    (lawful : ∀ name hook, registry.hook? name = some hook → hook.Lawful) {name : String}
    {recordType : RecordType (Typed Payload)} (registered : registry.record? name = some recordType)
    {field : Field (Typed Payload)} (member : field ∈ recordType.fields)
    {default : FieldDefault (Typed Payload)} (declared : field.default? = some default)
    {value : Typed Payload} (same : default.typed.equal value = true) (regular : value.Regular)
    (owned : value.Owned registry) (noNaN : value.NaNFree) :
    (registry.rereadOf .written field.type value).equal default.typed = true := by
  obtain ⟨settledDefault, regularDefault⟩ :=
    built.settled_default lawful registered member declared
  have wellFormed := regularDefault.wellFormed
  obtain ⟨raw, again, written, read, sameAgain⟩ :=
    (settledDefault.of_equal lawful wellFormed same regular owned).exists_equal regular noNaN
  rw [(Registry.rereadOf_eq written read).2]
  exact Typed.equal_symm wellFormed (Typed.equal_trans same sameAgain)

/-- A declared default without NaN equals itself, and so does the missing value. -/
theorem Registry.Built.fallback_equal_self (built : registry.Built alphabet)
    (lawful : ∀ name hook, registry.hook? name = some hook → hook.Lawful) {name : String}
    {recordType : RecordType (Typed Payload)} (registered : registry.record? name = some recordType)
    {field : Field (Typed Payload)} (member : field ∈ recordType.fields)
    (noNaN : ∀ default, field.default? = some default → default.typed.NaNFree)
    {fallback : Typed Payload} (steppedIn : field.fallback? = some fallback) :
    fallback.equal fallback = true := by
  rcases (field.fallback?_eq_some_iff fallback).1 steppedIn with
    ⟨default, declared, rfl⟩ | ⟨_, _, rfl⟩
  · obtain ⟨settled, regular⟩ := built.settled_default lawful registered member declared
    exact settled.equal_self regular (noNaN default declared)
  · rfl

/-- Every value without NaN that conforms to a type survives, if no gap is filled with NaN. -/
theorem survives_of_admits (built : registry.Built alphabet)
    (lawful : ∀ name hook, registry.hook? name = some hook → hook.Lawful)
    {type : TypeExpr} {value : Typed Payload} (textKeyed : type.TextKeyed)
    (admitted : type.admits value = true) (regular : value.Regular)
    (owned : value.Owned registry) (noNaN : value.NaNFree) (gaps : value.GapsNaNFree) :
    Survives registry type value := by
  induction type, value using TypeExpr.inductionWithParts Typed.partsInduction with
  | optional inner value inductionHypothesis =>
      cases missing : value.isMissing with
      | true => exact .of_same .null .missing (fun defaults => Yields.missing inner missing) rfl
      | false =>
          refine .optional missing (inductionHypothesis textKeyed ?_ regular owned noNaN gaps)
          refine ((TypeExpr.admits_optional_iff inner value).1 admitted).resolve_left ?_
          rintro rfl
          contradiction
  | scalar kind value =>
      obtain ⟨raw, yields⟩ := Yields.scalar admitted
      refine .of_same raw value yields ?_
      cases kind <;> cases value <;> try contradiction
      · exact BEq.rfl
      · exact BEq.rfl
      · exact (Binary64.equal_self_iff _).2 noNaN.here
      · exact BEq.rfl
  | any value =>
      obtain ⟨raw, rfl⟩ := (TypeExpr.admits_any_iff value).1 admitted
      have same : (Typed.raw raw : Typed Payload).equal (.raw raw) = true :=
        (Value.equal_self_iff regular.here).2 noNaN.here
      exact .of_same raw (.raw raw) (fun _ => Yields.any regular.here) same
  | sequence item value inductionHypothesis =>
      obtain ⟨items, rfl, each⟩ := (TypeExpr.admits_sequence_iff item value).1 admitted
      exact .sequence fun part member =>
        inductionHypothesis part member item textKeyed (each part member) (regular.inside member)
          (owned.inside member) (noNaN.inside member) (gaps.inside member)
  | set item value inductionHypothesis =>
      obtain ⟨items, rfl, each, _⟩ := (TypeExpr.admits_set_iff item value).1 admitted
      exact .set built.coherent fun part member =>
        inductionHypothesis part member item textKeyed (each part member) (regular.inside member)
          (owned.inside member) (noNaN.inside member) (gaps.inside member)
  | mapping key type value inductionHypothesis =>
      obtain ⟨entries, rfl, each⟩ := (TypeExpr.admits_mapping_iff key type value).1 admitted
      obtain ⟨rfl, valueKeyed⟩ := textKeyed
      refine .mapping regular.here fun entry member => ?_
      have partMember := Typed.mem_parts_mapping member
      exact inductionHypothesis entry.2 partMember type valueKeyed (each entry member)
        (regular.inside partMember) (owned.inside partMember) (noNaN.inside partMember)
        (gaps.inside partMember)
  | record name value inductionHypothesis =>
      obtain ⟨recordType, valueOf, extras?, layout, rfl, registered, each⟩ :=
        Typed.exists_table_of_admits admitted regular owned
      have here := regular.here
      have fields : ∀ field ∈ recordType.fields,
          Survives registry field.type (valueOf field) := by
        intro field member
        obtain ⟨partMember, valueKeyed, valueAdmitted⟩ := each field member
        exact inductionHypothesis (valueOf field) partMember field.type valueKeyed valueAdmitted
          (regular.inside partMember) (owned.inside partMember) (noNaN.inside partMember)
          (gaps.inside partMember)
      refine .record registered here noNaN.here fields fun field member => ?_
      have partMember := Typed.mem_parts_table valueOf extras? layout member
      have held := RecordType.lookup_table here.wellDeclared.distinct valueOf member
      apply Field.takenAgain_equal (fields field member)
      · intro optional missing fallback steppedIn
        exact built.fallback_equal_self lawful registered member
          (gaps.here field member optional _ held missing) steppedIn
      · intro default declared same
        exact built.rereadOf_equal_default lawful registered member declared same
          (regular.inside partMember) (owned.inside partMember) (noNaN.inside partMember)
  | custom name value =>
      obtain ⟨payload, rfl⟩ := (TypeExpr.admits_custom_iff name value).1 admitted
      obtain ⟨raw, again, same, yields⟩ := Yields.custom built lawful owned.here
      refine .of_same raw (.custom name again) yields ?_
      rw [Typed.equal, Bool.and_eq_true]
      exact ⟨BEq.rfl, BEq.trans same (BEq.symm same)⟩

end Survival

/-! ## All reached records -/

/-- The record can be written with the fields that hold their default and without them, both outputs
can be read as its type, and the records that are read are equal. -/
def Record.StripsSafely (registry : Registry Payload) (record : Record (Typed Payload)) : Prop :=
  ∃ full bare first second, registry.unstructureRecord .written record = .ok full ∧
    registry.unstructureRecord .stripped record = .ok bare ∧
    registry.structureRecord record.typeName full = .ok first ∧
    registry.structureRecord record.typeName bare = .ok second ∧
    (Typed.record first == Typed.record second) = true

/-- Leaving out the fields that hold their default loses nothing: whatever was done to a record of
registered types that holds no NaN, both outputs are read as equal records, if no NaN fills a
gap. -/
theorem stripping_loses_nothing [PartialEquivBEq Payload] {alphabet : Text.Alphabet}
    {registry : Registry Payload} (built : registry.Built alphabet)
    (lawful : ∀ name hook, registry.hook? name = some hook → hook.Lawful)
    {record : Record (Typed Payload)} (reached : Reached record)
    (owned : (Typed.record record).Owned registry) (noNaN : (Typed.record record).NaNFree)
    (gaps : (Typed.record record).GapsNaNFree) :
    record.StripsSafely registry := by
  have admitted : (TypeExpr.record record.typeName).admits (.record record) = true :=
    (TypeExpr.admits_record_iff _ _).2 ⟨record, rfl, rfl⟩
  have textKeyed : (TypeExpr.record record.typeName).TextKeyed := trivial
  have survives :=
    survives_of_admits built lawful textKeyed admitted reached.regular owned noNaN gaps
  have isRecord : ∀ defaults, ∃ held,
      registry.rereadOf defaults (.record record.typeName) (.record record) = .record held ∧
        registry.structureRecord record.typeName (registry.outputOf defaults (.record record)) =
          .ok held := by
    intro defaults
    have read := (survives.rereads defaults).read
    obtain ⟨_, held, _, _, isHeld⟩ :=
      (Registry.structureAs_record_eq_ok_iff registry record.typeName _ _).1 read
    rw [isHeld] at read
    exact ⟨held, isHeld, (Registry.structureAs_record_iff registry _ _ held).1 read⟩
  obtain ⟨first, isFirst, readFirst⟩ := isRecord .written
  obtain ⟨second, isSecond, readSecond⟩ := isRecord .stripped
  have same := survives.same
  rw [isFirst, isSecond] at same
  exact ⟨_, _, first, second, (survives.rereads .written).written,
    (survives.rereads .stripped).written, readFirst, readSecond, same⟩

namespace Sample

theorem gapsNaNFree_pet : (Typed.record pet).GapsNaNFree := by
  refine everywhere_pet ?_ trivial trivial trivial
  have ageNaNFree : (Typed.int 1 : Typed String).NaNFree :=
    (Typed.everywhere_of_parts_eq_nil rfl).2 trivial
  simpa [Typed.GapsNaNFreeHere, Record.GapsNaNFree, pet, petType, TypeExpr.isOptional] using
    fun _ _ _ => ageNaNFree

/-- The age of the pet is its default and is left out, which makes no difference. -/
theorem stripping_pet :
    Reached pet ∧ (Typed.record pet).GapsNaNFree ∧ pet.StripsSafely registry := by
  have lawful : ∀ name hook, registry.hook? name = some hook → hook.Lawful := by
    intro name hook found
    rw [eq_tagHook_of_hook? found]
    exact lawful_tagHook
  exact ⟨reached_pet, gapsNaNFree_pet, stripping_loses_nothing built_registry lawful reached_pet
    owned_pet nanFree_pet gapsNaNFree_pet⟩

/-! ## A default that does not equal itself -/

/-- A NaN, which is the default of an optional field. -/
def noNumber : Binary64 :=
  ⟨0x7ff8000000000000⟩

def readingSpec : RecordSpec where
  name := "Reading"
  isOpen := false
  fields := [⟨"level", .tree (.optional (.scalar .float)), some (.float noNumber)⟩]

def readingType : RecordType (Typed Unit) where
  name := "Reading"
  isOpen := false
  fields := [
    ⟨"level", .optional (.scalar .float), some ⟨.float noNumber, .float noNumber⟩, none⟩]

def readings : Registry Unit where
  records := [readingType]

/-- A reading that was made without a level. -/
def reading : Record (Typed Unit) where
  recordType := readingType
  values := [("level", .missing)]
  extras? := none
  layout := []

theorem built_readings : readings.Built Text.unicode := by
  have wellFormed : readingSpec.WellFormed := by
    simp [RecordSpec.WellFormed, readingSpec, Value.WellFormed]
  have declared : Registry.declare Text.unicode {} readingSpec = .ok (readingType, readings) := rfl
  exact .declare .empty wellFormed declared

theorem reached_reading : Reached reading := by
  have declared : readingType.Declared := ⟨_, readings, built_readings, List.mem_singleton_self _⟩
  have constructed : readingType.construct [("level", .missing)] = .ok reading := rfl
  refine .constructed declared ?_ ?_ constructed
  · rw [List.forall_mem_singleton]
    exact (Typed.everywhere_of_parts_eq_nil rfl).2 trivial
  · rw [List.forall_mem_singleton]
    rintro held (_ | ⟨member, _⟩)
    contradiction

/-- A missing level is written as null both times, which is read as a NaN both times. -/
theorem not_stripsSafely_reading :
    readings.Built Text.unicode ∧ (∀ name hook, readings.hook? name = some hook → hook.Lawful) ∧
      Reached reading ∧ (Typed.record reading).Owned readings ∧ (Typed.record reading).NaNFree ∧
      ¬ reading.StripsSafely readings := by
  have everywhere : ∀ {holds : Typed Unit → Prop}, holds (.record reading) → holds .missing →
      Everywhere Typed.parts holds (.record reading) := by
    intro holds here level
    refine (Typed.everywhere_record_iff reading).2 ⟨here, List.forall_mem_singleton.2 ?_⟩
    exact (Typed.everywhere_of_parts_eq_nil rfl).2 level
  refine ⟨built_readings, nofun, reached_reading, everywhere rfl trivial, everywhere ?_ trivial, ?_⟩
  · exact (Value.nanFree_map_iff []).2 nofun
  · rintro ⟨full, bare, first, second, written, stripped, readFirst, readSecond, same⟩
    cases written
    cases stripped
    cases readFirst
    cases readSecond
    contradiction

end Sample

end Recast
