import Recast.Registry.Structuring

/-!
# Places in an untyped value

Reading an untyped value as a type reads its parts as the types that the type gives to their
places.  A place is named by the steps that lead to it.
-/

namespace Recast

/-! ## Steps -/

namespace Value

/-- A step down into an untyped value. -/
inductive Step where
  | item (position : Nat)
  | entry (key : String)

/-- The value that the steps lead to. -/
def follow? : List Step → Value → Option Value
  | [], value => some value
  | .item position :: rest, .array items => items[position]?.bind (follow? rest)
  | .entry key :: rest, .map entries => (entries.lookup key).bind (follow? rest)
  | _, _ => none

end Value

variable {Payload : Type}

namespace Registry

/-! ## Places -/

/-- `Place registry type raw path inner part`: where `raw` is read as `type`, the part at the path
is read as the inner type. -/
inductive Place (registry : Registry Payload) :
    TypeExpr → Value → List Value.Step → TypeExpr → Value → Prop
  | here (type : TypeExpr) (raw : Value) : Place registry type raw [] type raw
  | optional {type inner : TypeExpr} {raw part : Value} {path : List Value.Step} :
      raw.isNull = false →
      Place registry type raw path inner part →
      Place registry (.optional type) raw path inner part
  | item {item inner : TypeExpr} {items : List Value} {position : Nat} {raw part : Value}
      {path : List Value.Step} :
      items[position]? = some raw →
      Place registry item raw path inner part →
      Place registry (.sequence item) (.array items) (.item position :: path) inner part
  | element {item inner : TypeExpr} {items : List Value} {position : Nat} {raw part : Value}
      {path : List Value.Step} :
      items[position]? = some raw →
      Place registry item raw path inner part →
      Place registry (.set item) (.array items) (.item position :: path) inner part
  | entry {keyType type inner : TypeExpr} {entries : Entries Value} {key : String}
      {raw part : Value} {path : List Value.Step} :
      entries.lookup key = some raw →
      Place registry type raw path inner part →
      Place registry (.mapping keyType type) (.map entries) (.entry key :: path) inner part
  | field {name : String} {recordType : RecordType (Typed Payload)}
      {field : Field (Typed Payload)} {inner : TypeExpr} {entries : Entries Value}
      {raw part : Value} {path : List Value.Step} :
      registry.record? name = some recordType →
      field ∈ recordType.fields →
      entries.lookup field.name = some raw →
      Place registry field.type raw path inner part →
      Place registry (.record name) (.map entries) (.entry field.name :: path) inner part

/-- The part of a place is what the steps lead to. -/
theorem Place.follow?_eq {registry : Registry Payload} {type inner : TypeExpr} {raw part : Value}
    {path : List Value.Step} (place : registry.Place type raw path inner part) :
    raw.follow? path = some part := by
  induction place with
  | here type raw => cases raw <;> rfl
  | optional _ _ inductionHypothesis => exact inductionHypothesis
  | item found _ inductionHypothesis =>
      rw [Value.follow?, found]
      exact inductionHypothesis
  | element found _ inductionHypothesis =>
      rw [Value.follow?, found]
      exact inductionHypothesis
  | entry found _ inductionHypothesis =>
      rw [Value.follow?, found]
      exact inductionHypothesis
  | field _ _ found _ inductionHypothesis =>
      rw [Value.follow?, found]
      exact inductionHypothesis

/-! ## What holds at every place -/

/-- Every place has the property: as whatever type a part is read. -/
def AtPlaces (registry : Registry Payload) (holds : TypeExpr → Value → Prop) (type : TypeExpr)
    (raw : Value) : Prop :=
  ∀ path inner part, registry.Place type raw path inner part → holds inner part

namespace AtPlaces

variable {registry : Registry Payload} {holds : TypeExpr → Value → Prop} {itemType type : TypeExpr}
  {raw part : Value} {items : List Value} {entries : Entries Value}

theorem here (everywhere : registry.AtPlaces holds type raw) :
    holds type raw :=
  everywhere [] type raw (.here type raw)

theorem optional (present : raw.isNull = false)
    (everywhere : registry.AtPlaces holds (.optional type) raw) :
    registry.AtPlaces holds type raw :=
  fun path inner rest place => everywhere path inner rest (.optional present place)

theorem item (everywhere : registry.AtPlaces holds (.sequence itemType) (.array items))
    (member : part ∈ items) :
    registry.AtPlaces holds itemType part := by
  obtain ⟨position, found⟩ := List.mem_iff_getElem?.1 member
  exact fun path inner rest place => everywhere _ inner rest (.item found place)

theorem element (everywhere : registry.AtPlaces holds (.set itemType) (.array items))
    (member : part ∈ items) :
    registry.AtPlaces holds itemType part := by
  obtain ⟨position, found⟩ := List.mem_iff_getElem?.1 member
  exact fun path inner rest place => everywhere _ inner rest (.element found place)

theorem entry {keyType : TypeExpr} {key : String}
    (everywhere : registry.AtPlaces holds (.mapping keyType type) (.map entries))
    (found : entries.lookup key = some part) :
    registry.AtPlaces holds type part :=
  fun _ inner rest place => everywhere _ inner rest (.entry found place)

theorem field {name : String} {recordType : RecordType (Typed Payload)}
    {field : Field (Typed Payload)}
    (everywhere : registry.AtPlaces holds (.record name) (.map entries))
    (registered : registry.record? name = some recordType) (member : field ∈ recordType.fields)
    (found : entries.lookup field.name = some part) :
    registry.AtPlaces holds field.type part :=
  fun _ inner rest place => everywhere _ inner rest (.field registered member found place)

/-! An untyped value has the property at every place if it has it itself and each of its parts has
it at every place. -/

theorem of_null (here : holds (.optional type) .null) :
    registry.AtPlaces holds (.optional type) .null := by
  intro path inner rest place
  cases place with
  | here => exact here
  | optional present _ => contradiction

theorem of_optional (here : holds (.optional type) raw)
    (inside : registry.AtPlaces holds type raw) :
    registry.AtPlaces holds (.optional type) raw := by
  intro path inner rest place
  cases place with
  | here => exact here
  | optional _ innerPlace => exact inside path inner rest innerPlace

theorem of_sequence (here : holds (.sequence itemType) (.array items))
    (each : ∀ part ∈ items, registry.AtPlaces holds itemType part) :
    registry.AtPlaces holds (.sequence itemType) (.array items) := by
  intro path inner rest place
  cases place with
  | here => exact here
  | item found innerPlace => exact each _ (List.mem_of_getElem? found) _ inner rest innerPlace

theorem of_mapping {keyType : TypeExpr} (here : holds (.mapping keyType type) (.map entries))
    (each : ∀ key part, entries.lookup key = some part → registry.AtPlaces holds type part) :
    registry.AtPlaces holds (.mapping keyType type) (.map entries) := by
  intro path inner rest place
  cases place with
  | here => exact here
  | entry found innerPlace => exact each _ _ found _ inner rest innerPlace

theorem of_any (here : holds .any raw) : registry.AtPlaces holds .any raw := by
  intro path inner rest place
  cases place
  exact here

/-- A scalar is the only place in itself. -/
theorem of_scalar {kind : Scalar} (here : holds (.scalar kind) raw) :
    registry.AtPlaces holds (.scalar kind) raw := by
  intro path inner rest place
  cases place
  exact here

theorem of_record {name : String} {recordType : RecordType (Typed Payload)}
    (registered : registry.record? name = some recordType)
    (here : holds (.record name) (.map entries))
    (each : ∀ field ∈ recordType.fields, ∀ part, entries.lookup field.name = some part →
      registry.AtPlaces holds field.type part) :
    registry.AtPlaces holds (.record name) (.map entries) := by
  intro path inner rest place
  cases place with
  | here => exact here
  | field otherRegistered member found innerPlace =>
      rw [registered, Option.some.injEq] at otherRegistered
      rw [← otherRegistered] at member
      exact each _ member _ found _ _ _ innerPlace

end AtPlaces

end Registry

end Recast
