import Recast.Typed.Equality

/-!
# Admission: which typed values conform to a type

Where no untyped input is at hand, as in direct construction and in changes of a field, a value
is held against the type of the field.  Records and custom values are known by the name of their
type.
-/

namespace Recast.TypeExpr

variable {Payload : Type} [BEq Payload]

/-- Whether a typed value conforms to the type. -/
def admits : TypeExpr → Typed Payload → Bool
  | .optional _, .missing => true
  | .optional inner, value => inner.admits value
  | .any, .raw _ => true
  | .scalar .str, .str _ => true
  | .scalar .int, .int _ => true
  | .scalar .float, .float _ => true
  | .scalar .bool, .bool _ => true
  | .sequence item, .sequence items => items.all fun value => item.admits value
  | .set item, .set items =>
      (items.all fun value => item.admits value) && Typed.allDistinct items
  | .mapping _ value, .mapping entries => entries.all fun entry => value.admits entry.2
  | .record name, .record held => held.typeName == name
  | .custom name, .custom typeName _ => typeName == name
  | _, _ => false

end Recast.TypeExpr
