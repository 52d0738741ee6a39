import Recast.Registry.Declaration
import Recast.Registry.Shared

/-!
# Operations that report what they did

Some operations leave a note for the log of the program.  Each is given here together with the
events that it reports, in order.
-/

namespace Recast

variable {Payload : Type} [BEq Payload]

inductive Severity where
  | debug
  | warning
  deriving DecidableEq

def Severity.label : Severity → String
  | .debug => "DEBUG"
  | .warning => "WARN"

/-- Something worth a line in a log. -/
inductive Event where
  | recordDeclared (isOpen : Bool) (name : String) (fieldCount : Nat)
  | hookRegistered (name : String)
  | structuringFailed (name : String) (error : StructureError)
  | registryInstalled
  deriving DecidableEq

namespace Event

def severity : Event → Severity
  | .recordDeclared _ _ _ => .debug
  | .hookRegistered _ => .debug
  | .structuringFailed _ _ => .warning
  | .registryInstalled => .debug

def message : Event → String
  | .recordDeclared isOpen name fieldCount =>
      let openness := if isOpen then "open" else "closed"
      s!"Declared {openness} record type {name} with {fieldCount} field(s)"
  | .hookRegistered name => s!"Registered hook {name}"
  | .structuringFailed name error => s!"Could not structure {name}: {error.message}"
  | .registryInstalled => "Installed global registry"

end Event

/-- A result with the events reported on the way to it. -/
structure Report (α : Type) where
  result : α
  events : List Event

namespace Registry

/-- Declare a record type; success is reported. -/
def declareReporting (registry : Registry Payload) (spec : RecordSpec)
    (alphabet : Text.Alphabet := Text.unicode) :
    Report (Except DeclarationError (RecordType (Typed Payload) × Registry Payload)) :=
  match registry.declare alphabet spec with
  | .ok (recordType, extended) =>
      ⟨.ok (recordType, extended),
        [.recordDeclared recordType.isOpen recordType.name recordType.fields.length]⟩
  | .error error => ⟨.error error, []⟩

/-- Register a hook; success is reported. -/
def registerReporting (registry : Registry Payload) (name : String) (hook : Hook Payload)
    (alphabet : Text.Alphabet := Text.unicode) :
    Report (Except DeclarationError (Registry Payload)) :=
  match registry.register alphabet name hook with
  | .ok extended => ⟨.ok extended, [.hookRegistered name]⟩
  | .error error => ⟨.error error, []⟩

/-- Structure a value as a record if it is one; failure is reported. -/
def tryStructureRecord (registry : Registry Payload) (name : String) (raw : Value) :
    Report (Option (Record (Typed Payload))) :=
  match registry.structureRecord name raw with
  | .ok record => ⟨some record, []⟩
  | .error error => ⟨none, [.structuringFailed name error]⟩

end Registry

namespace SharedRegistry

/-- Fill the place of the shared registry; success is reported. -/
def installReporting (place : SharedRegistry Payload) (registry : Registry Payload) :
    Report (Except (Registry Payload) (SharedRegistry Payload)) :=
  match place.install registry with
  | .ok filled => ⟨.ok filled, [.registryInstalled]⟩
  | .error rejected => ⟨.error rejected, []⟩

end SharedRegistry

end Recast
