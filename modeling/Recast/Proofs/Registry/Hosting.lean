import Recast.Proofs.Registry.Built
import Recast.Registry.Hosted

/-!
# Hooks for the types of a host

A hook that is made from the conversions of one host type wraps what it makes as a value of that
type, and it takes apart values of that type only.  So it accepts all that it makes, whatever the
conversions do, and a registry whose hooks are all made in this way is a built one.
-/

namespace Recast

variable {Host : Type} {Carrier : Host → Type} [DecidableEq Host]

/-! ## Payloads and their types -/

namespace Hosted

theorem downcast?_self (host : Host) (held : Carrier host) :
    (Hosted.mk host held).downcast? host = some held := by
  rw [downcast?, dif_pos rfl]

theorem downcast?_of_ne {payload : Hosted Carrier} {host : Host} (different : payload.host ≠ host) :
    payload.downcast? host = none := by
  rw [downcast?, dif_neg different]

variable [∀ host, BEq (Carrier host)]

/-- Payloads are equal exactly if they hold equal values of one type. -/
theorem beq_iff (left right : Hosted Carrier) :
    (left == right) = true ↔
      ∃ host held other, left = ⟨host, held⟩ ∧ right = ⟨host, other⟩ ∧
        (held == other) = true := by
  obtain ⟨host, held⟩ := left
  obtain ⟨otherHost, other⟩ := right
  by_cases sameHost : otherHost = host
  · subst sameHost
    have compared : (Hosted.mk otherHost held == ⟨otherHost, other⟩) = (held == other) := by
      change equal _ _ = _
      rw [equal, downcast?_self]
    rw [compared]
    constructor
    · intro same
      exact ⟨otherHost, held, other, rfl, rfl, same⟩
    · rintro ⟨_, _, _, leftEq, rightEq, same⟩
      cases leftEq
      cases rightEq
      exact same
  · refine iff_of_false ?_ ?_
    · change ¬ equal _ _ = true
      rw [equal, downcast?_of_ne sameHost]
      exact Bool.false_ne_true
    · rintro ⟨_, _, _, leftEq, rightEq, _⟩
      cases leftEq
      cases rightEq
      exact sameHost rfl

/-- Equality of payloads inherits symmetry and transitivity from each host type. -/
instance [∀ host, PartialEquivBEq (Carrier host)] : PartialEquivBEq (Hosted Carrier) where
  symm := by
    intro left right same
    obtain ⟨host, held, other, rfl, rfl, sameHeld⟩ := (beq_iff left right).1 same
    exact (beq_iff _ _).2 ⟨host, other, held, rfl, rfl, BEq.symm sameHeld⟩
  trans := by
    intro left middle right sameLeft sameRight
    obtain ⟨host, held, between, rfl, rfl, sameFirst⟩ := (beq_iff left middle).1 sameLeft
    obtain ⟨_, _, other, middleEq, rfl, sameSecond⟩ := (beq_iff _ right).1 sameRight
    cases middleEq
    exact (beq_iff _ _).2 ⟨host, held, other, rfl, rfl, BEq.trans sameFirst sameSecond⟩

end Hosted

/-! ## Hooks for one type -/

namespace HostHook

variable {hostHook : HostHook Carrier}

theorem unstructurePayload?_hook_self (hostHook : HostHook Carrier)
    (held : Carrier hostHook.host) :
    hostHook.hook.unstructurePayload? ⟨hostHook.host, held⟩ =
      some (hostHook.unstructureHeld held) :=
  congrArg (Option.map hostHook.unstructureHeld) (Hosted.downcast?_self hostHook.host held)

theorem unstructurePayload?_hook_of_ne {payload : Hosted Carrier}
    (foreign : payload.host ≠ hostHook.host) :
    hostHook.hook.unstructurePayload? payload = none :=
  congrArg (Option.map hostHook.unstructureHeld) (Hosted.downcast?_of_ne foreign)

/-- Equal values of the host type have equal untyped forms. -/
def WritesAlike [∀ host, BEq (Carrier host)] (hostHook : HostHook Carrier) : Prop :=
  ∀ held other, (held == other) = true →
    (hostHook.unstructureHeld held == hostHook.unstructureHeld other) = true

/-- No untyped form that the conversion gives has a key twice. -/
def WritesWellFormed (hostHook : HostHook Carrier) : Prop :=
  ∀ held, (hostHook.unstructureHeld held).WellFormed

/-- What the hook makes is a value of its own type. -/
theorem structurePayload_hook_eq_ok_iff (raw : Value) (payload : Hosted Carrier) :
    hostHook.hook.structurePayload raw = .ok payload ↔
      ∃ held, hostHook.structureHeld raw = .ok held ∧ ⟨hostHook.host, held⟩ = payload :=
  Outcome.map_eq_ok_iff _ _ _

/-- Untyped forms are given to values of its own type only. -/
theorem unstructurePayload?_hook_eq_some_iff (payload : Hosted Carrier) (raw : Value) :
    hostHook.hook.unstructurePayload? payload = some raw ↔
      ∃ held, payload = ⟨hostHook.host, held⟩ ∧ hostHook.unstructureHeld held = raw := by
  obtain ⟨host, held⟩ := payload
  by_cases same : host = hostHook.host
  · subst same
    rw [unstructurePayload?_hook_self]
    simp
  · rw [unstructurePayload?_hook_of_ne same]
    refine iff_of_false (by simp) ?_
    rintro ⟨other, samePayload, _⟩
    exact same (congrArg Hosted.host samePayload)

/-- A hook accepts what it makes. -/
theorem hook_wellTyped (wellFormed : hostHook.WritesWellFormed) : hostHook.hook.WellTyped where
  ownKind := by
    intro raw payload made
    obtain ⟨held, _, rfl⟩ := (structurePayload_hook_eq_ok_iff raw payload).1 made
    rw [unstructurePayload?_hook_self]
    rfl
  wellFormed := by
    intro payload raw written
    obtain ⟨held, _, rfl⟩ := (unstructurePayload?_hook_eq_some_iff payload raw).1 written
    exact wellFormed held

end HostHook

/-! ## Registries of a host -/

namespace Registry

variable [∀ host, BEq (Carrier host)]

/-- The registries that a host builds: record types are declared, and hooks are registered by the
conversions of one host type each. -/
inductive HostBuilt (alphabet : Text.Alphabet) : Registry (Hosted Carrier) → Prop
  | empty : HostBuilt alphabet {}
  | declare {registry extended : Registry (Hosted Carrier)} {spec : RecordSpec}
      {recordType : RecordType (Typed (Hosted Carrier))} :
      HostBuilt alphabet registry →
      spec.WellFormed →
      registry.declare alphabet spec = .ok (recordType, extended) →
      HostBuilt alphabet extended
  | register {registry extended : Registry (Hosted Carrier)} {name : String}
      {hostHook : HostHook Carrier} :
      HostBuilt alphabet registry →
      hostHook.WritesWellFormed →
      registry.registerHook alphabet name hostHook = .ok extended →
      HostBuilt alphabet extended

theorem HostBuilt.built {alphabet : Text.Alphabet} {registry : Registry (Hosted Carrier)}
    (built : registry.HostBuilt alphabet) :
    registry.Built alphabet := by
  induction built with
  | empty => exact .empty
  | declare _ wellFormed declared inductionHypothesis =>
      exact .declare inductionHypothesis wellFormed declared
  | register _ wellFormed registered inductionHypothesis =>
      exact .register inductionHypothesis (HostHook.hook_wellTyped wellFormed) registered

end Registry

/-! ## Parcels with labels -/

namespace Sample

/-- Two host types, both kept as text: labels and seals. -/
def Paper : Bool → Type :=
  fun _ => String

instance (host : Bool) : BEq (Paper host) :=
  inferInstanceAs (BEq String)

instance (host : Bool) : PartialEquivBEq (Paper host) :=
  inferInstanceAs (PartialEquivBEq String)

def labelHook : HostHook Paper where
  host := true
  structureHeld raw := (raw.asString?).elim (.error "no text") .ok
  payloadType := "Label"
  unstructureHeld held := .string held

def parcelSpec : RecordSpec where
  name := "Parcel"
  isOpen := false
  fields := [⟨"label", .tree (.custom "Label"), some (.string "plain")⟩]

def parcelType : RecordType (Typed (Hosted Paper)) where
  name := "Parcel"
  isOpen := false
  fields := [⟨"label", .custom "Label", some ⟨.string "plain", .custom "Label" ⟨true, "plain"⟩⟩,
    none⟩]

def parcels : Registry (Hosted Paper) where
  records := [parcelType]
  hooks := [("Label", labelHook.hook)]

theorem hostBuilt_parcels : parcels.HostBuilt Text.unicode := by
  have registered : Registry.registerHook Text.unicode {} "Label" labelHook =
      .ok ⟨[], [("Label", labelHook.hook)]⟩ := rfl
  have writesWellFormed : labelHook.WritesWellFormed := fun _ => trivial
  have withHook := Registry.HostBuilt.register .empty writesWellFormed registered
  have specWellFormed : parcelSpec.WellFormed := by
    simp [RecordSpec.WellFormed, parcelSpec, Value.WellFormed]
  have declared : Registry.declare Text.unicode ⟨[], [("Label", labelHook.hook)]⟩ parcelSpec =
      .ok (parcelType, parcels) := rfl
  exact .declare withHook specWellFormed declared

end Sample

end Recast
