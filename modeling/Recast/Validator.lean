import Recast.TypeExpr.Basic

/-!
# Validators

A field that must be given a value carries a check on what it is given.  The check depends on the
type of the field only and is chosen once, when the field is declared.
-/

namespace Recast

/-- The check on the value of a required field. -/
inductive Validator where
  /-- Text, sequences, sets and mappings need at least one element. -/
  | nonEmpty
  /-- Anything that is there will do: `0` and `false` are values. -/
  | present
  deriving DecidableEq

namespace Validator

/-- The check for a field of the given type.  A nested record checks its own fields, and an
optional field may be missing, so neither gets a check. -/
def compile : TypeExpr → Option Validator
  | .scalar .str => some .nonEmpty
  | .sequence _ => some .nonEmpty
  | .set _ => some .nonEmpty
  | .mapping _ _ => some .nonEmpty
  | .scalar _ => some .present
  | .any => some .present
  | .custom _ => some .present
  | .record _ => none
  | .optional _ => none

end Validator

/-- A required field was given nothing, or something empty. -/
inductive ValidationError where
  | empty (field : String)
  | missing (field : String)
  deriving DecidableEq

namespace ValidationError

def field : ValidationError → String
  | .empty field => field
  | .missing field => field

def message : ValidationError → String
  | .empty field => s!"field '{field}' is required and must not be empty"
  | .missing field => s!"field '{field}' is required but no value was given"

end ValidationError

end Recast
