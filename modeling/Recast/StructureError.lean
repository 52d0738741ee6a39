import Recast.Path
import Recast.Validator

/-!
# Why input does not fit a type

An error is a fault and the path of the value that has it, from the top of what is structured.
-/

namespace Recast

/-- What is wrong with a value. -/
inductive StructureFault where
  | missingField (record field : String)
  | typeMismatch (expected found : String)
  | invalid (failure : ValidationError)
  | unregistered (typeName : String)
  | hook (typeName reason : String)
  | unknownField (record field : String)
  deriving DecidableEq

def StructureFault.message : StructureFault → String
  | .missingField record field => s!"missing required field '{field}' of {record}"
  | .typeMismatch expected found => s!"expected {expected}, found {found}"
  | .invalid failure => failure.message
  | .unregistered typeName => s!"no structure function registered for '{typeName}'"
  | .hook typeName reason => s!"'{typeName}' hook failed: {reason}"
  | .unknownField record field => s!"{record} has no field '{field}'"

/-- A fault and where it is. -/
structure StructureError where
  path : Path
  fault : StructureFault
  deriving DecidableEq

namespace StructureError

def atTop (fault : StructureFault) : StructureError :=
  ⟨.root, fault⟩

@[simp]
theorem mk_root (fault : StructureFault) : ⟨.root, fault⟩ = atTop fault :=
  rfl

/-- The failed check of a required field, if that is what the error is. -/
def validation? (error : StructureError) : Option ValidationError :=
  match error.fault with
  | .invalid failure => some failure
  | _ => none

def message (error : StructureError) : String :=
  s!"{error.path.text}: {error.fault.message}"

end StructureError

end Recast
