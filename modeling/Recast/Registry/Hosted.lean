import Recast.Registry.Basic

/-!
# Payloads of several host types

A host keeps values of several of its own types in custom values.  A payload then remembers which
type it is of.  The left of two payloads decides as what they are compared, so payloads of different
types differ.  A hook is made from conversions of one type; it is foreign to payloads of the others.
-/

namespace Recast

variable {Host : Type} {Carrier : Host → Type}

/-- A value of one of the types of a host, together with this type. -/
structure Hosted (Carrier : Host → Type) where
  host : Host
  held : Carrier host

/-- The conversions of a custom type for one type of the host. -/
structure HostHook (Carrier : Host → Type) where
  host : Host
  structureHeld : Value → Except String (Carrier host)
  payloadType : String
  unstructureHeld : Carrier host → Value

variable [DecidableEq Host]

namespace Hosted

/-- What the payload holds, if it is of the given type. -/
def downcast? (payload : Hosted Carrier) (host : Host) : Option (Carrier host) :=
  if same : payload.host = host then some (same ▸ payload.held) else none

/-- Both payloads are taken for values of the type of the left one. -/
def equal [∀ host, BEq (Carrier host)] (left right : Hosted Carrier) : Bool :=
  match right.downcast? left.host with
  | some held => left.held == held
  | none => false

instance [∀ host, BEq (Carrier host)] : BEq (Hosted Carrier) :=
  ⟨equal⟩

end Hosted

/-- The hook for payloads of all types: what it makes is of its own type, and only of that type it
gives untyped forms. -/
def HostHook.hook (hostHook : HostHook Carrier) : Hook (Hosted Carrier) where
  structurePayload raw := (hostHook.structureHeld raw).map (Hosted.mk hostHook.host)
  payloadType := hostHook.payloadType
  unstructurePayload? payload := (payload.downcast? hostHook.host).map hostHook.unstructureHeld

end Recast
