import Recast.Proofs.Registry.Writing
import Recast.Proofs.Record.Invariant

/-!
# Values that come back

`Settled` describes the values that can be written and read again as a type: nothing in them is
lost because it stands for the absence of a value, and every record is of a registered type and
keeps no entry under the name of a field.  Reading a settled value again yields a value that
`Reread` relates to it: the same one, up to the order of kept entries, the key order of records,
and payloads that come back as others which are alike.
-/

namespace Recast

variable {Payload : Type} [BEq Payload]

/-! ## How a value comes back -/

/-- The second value is what the first one is read as again.  Payloads come back alike. -/
inductive Reread (like : Payload → Payload → Prop) : Typed Payload → Typed Payload → Prop
  | missing : Reread like .missing .missing
  | bool (truth : Bool) : Reread like (.bool truth) (.bool truth)
  | int (number : Int64) : Reread like (.int number) (.int number)
  | float (number : Binary64) : Reread like (.float number) (.float number)
  | str (text : String) : Reread like (.str text) (.str text)
  | raw (value : Value) : Reread like (.raw value) (.raw value)
  | sequence {items : List (Typed Payload)} (again : Typed Payload → Typed Payload) :
      (∀ item ∈ items, Reread like item (again item)) →
      Reread like (.sequence items) (.sequence (items.map again))
  | set {items : List (Typed Payload)} (again : Typed Payload → Typed Payload) :
      (∀ item ∈ items, Reread like item (again item)) →
      Reread like (.set items) (.set (items.map again))
  | mapping {entries : Entries (Typed Payload)} (again : Typed Payload → Typed Payload) :
      (∀ entry ∈ entries, Reread like entry.2 (again entry.2)) →
      Reread like (.mapping entries) (.mapping (Entries.mapValues again entries))
  | record {recordType : RecordType (Typed Payload)}
      (valueOf again : Field (Typed Payload) → Typed Payload) (extras? : Option (Entries Value))
      (layout later : List String) :
      (∀ field ∈ recordType.fields, Reread like (valueOf field) (again field)) →
      Reread like (.record ⟨recordType, recordType.table valueOf, extras?, layout⟩)
        (.record ⟨recordType, recordType.table again, extras?.map (Entries.arrange · layout),
          later⟩)
  | custom (name : String) {payload again : Payload} :
      like payload again →
      Reread like (.custom name payload) (.custom name again)

namespace Reread

variable {like : Payload → Payload → Prop} {value again : Typed Payload}

omit [BEq Payload] in
theorem isMissing_eq (reread : Reread like value again) :
    again.isMissing = value.isMissing := by
  cases reread <;> rfl

omit [BEq Payload] in
theorem size?_eq (reread : Reread like value again) : again.size? = value.size? := by
  cases reread <;> simp [Typed.size?, Entries.mapValues]

omit [BEq Payload] in
/-- What passed a validator passes it when it comes back. -/
theorem validate_eq (reread : Reread like value again) (field : Field (Typed Payload)) :
    field.validate again = field.validate value := by
  rw [Field.validate, Field.validate]
  cases field.validator? with
  | none => rfl
  | some validator => simp only [Validator.check, reread.isMissing_eq, reread.size?_eq]

end Reread

/-- No two items of a set in the value become equal by coming back. -/
def SetsStayDistinct (like : Payload → Payload → Prop) (value : Typed Payload) : Prop :=
  ∀ items, Occurs Typed.parts (.set items) value →
    ∀ again : Typed Payload → Typed Payload, (∀ item ∈ items, Reread like item (again item)) →
      Typed.allDistinct (items.map again) = true

theorem SetsStayDistinct.inside {like : Payload → Payload → Prop} {part whole : Typed Payload}
    (distinct : SetsStayDistinct like whole) (member : part ∈ whole.parts) :
    SetsStayDistinct like part :=
  fun items occurs => distinct items (.inside member occurs)

/-! ## Values that can be read again -/

omit [BEq Payload] in
/-- What a record keeps of its input is not declared. -/
theorem RecordType.undeclared_reading {recordType : RecordType (Typed Payload)}
    (valueOf : Field (Typed Payload) → Typed Payload) (entries : Entries Value) :
    recordType.Undeclared (recordType.reading valueOf entries).extras := by
  intro key member
  rw [Record.extras, reading] at member
  cases isOpen : recordType.isOpen with
  | false => simp [isOpen] at member
  | true =>
      rw [isOpen, if_pos rfl, Option.getD_some,
        Entries.keys_filter fun key => !recordType.declares key] at member
      simpa using (List.mem_filter.1 member).2

/-- The value can be written and read again as the type. -/
inductive Settled (registry : Registry Payload) (like : Payload → Payload → Prop) :
    TypeExpr → Typed Payload → Prop
  | missing (inner : TypeExpr) : Settled registry like (.optional inner) .missing
  | optional {inner : TypeExpr} {value : Typed Payload} :
      value.isMissing = false →
      Settled registry like inner value →
      Settled registry like (.optional inner) value
  | str (text : String) : Settled registry like (.scalar .str) (.str text)
  | int (number : Int64) : Settled registry like (.scalar .int) (.int number)
  | float (number : Binary64) : Settled registry like (.scalar .float) (.float number)
  | bool (truth : Bool) : Settled registry like (.scalar .bool) (.bool truth)
  | any (value : Value) : Settled registry like .any (.raw value)
  | sequence {item : TypeExpr} {items : List (Typed Payload)} :
      (∀ part ∈ items, Settled registry like item part) →
      Settled registry like (.sequence item) (.sequence items)
  | set {item : TypeExpr} {items : List (Typed Payload)} :
      (∀ part ∈ items, Settled registry like item part) →
      Settled registry like (.set item) (.set items)
  | mapping {type : TypeExpr} {entries : Entries (Typed Payload)} :
      (∀ entry ∈ entries, Settled registry like type entry.2) →
      Settled registry like (.mapping .str type) (.mapping entries)
  | record {name : String} {recordType : RecordType (Typed Payload)}
      {valueOf : Field (Typed Payload) → Typed Payload} {extras? : Option (Entries Value)}
      {layout : List String}
      (registered : registry.record? name = some recordType)
      (regular : Record.Regular ⟨recordType, recordType.table valueOf, extras?, layout⟩)
      (undeclared : recordType.Undeclared (extras?.getD []))
      (fallback : ∀ field ∈ recordType.fields, field.type.isOptional = true →
        valueOf field = .missing → field.fallback? = some .missing)
      (each : ∀ field ∈ recordType.fields, Settled registry like field.type (valueOf field)) :
      Settled registry like (.record name)
        (.record ⟨recordType, recordType.table valueOf, extras?, layout⟩)
  | custom {name : String} {hook : Hook Payload} {payload again : Payload} {raw : Value} :
      registry.hook? name = some hook →
      hook.unstructurePayload? payload = some raw →
      raw.isNull = false →
      hook.structurePayload raw = .ok again →
      like payload again →
      Settled registry like (.custom name) (.custom name payload)

/-- A value that is settled as an optional type and counts as missing is the missing value. -/
theorem Settled.eq_missing {registry : Registry Payload} {like : Payload → Payload → Prop}
    {type : TypeExpr} {value : Typed Payload} (settled : Settled registry like type value)
    (optional : type.isOptional = true) (missing : value.isMissing = true) :
    value = .missing := by
  cases settled with
  | missing inner => rfl
  | optional present _ =>
      rw [present] at missing
      contradiction
  | _ => contradiction

/-- The value is written as the raw value, which is read as `again`.  If payloads come back as
they are, that is written as the same raw value. -/
structure Returns (registry : Registry Payload) (like : Payload → Payload → Prop)
    (type : TypeExpr) (value : Typed Payload) (raw : Value) (again : Typed Payload) : Prop where
  written : registry.unstructure .written value = .ok raw
  isNull_eq : raw.isNull = value.isMissing
  read : registry.structureAs raw type = .ok again
  reread : Reread like value again
  rewritten : (∀ payload other, like payload other → other = payload) →
    registry.unstructure .written again = .ok raw

end Recast
