import Recast.Registry.Basic

/-!
# The shared registry

A program may put one registry where every part of it finds it.  The place is filled once: a
second registry is handed back.
-/

namespace Recast

/-- The place of the shared registry. -/
structure SharedRegistry (Payload : Type) where
  installed? : Option (Registry Payload) := none

namespace SharedRegistry

variable {Payload : Type}

/-- Fill the place, or hand the registry back if it is filled already. -/
def install (place : SharedRegistry Payload) (registry : Registry Payload) :
    Except (Registry Payload) (SharedRegistry Payload) :=
  match place.installed? with
  | none => .ok ⟨some registry⟩
  | some _ => .error registry

end SharedRegistry

end Recast
