/-!
# Type expressions

A type expression says what a field may hold.  Names that are not built in refer to a record type
or to a custom type of a registry.
-/

namespace Recast

inductive Scalar where
  | str
  | int
  | float
  | bool
  deriving DecidableEq

/-- What a value may be. -/
inductive TypeExpr where
  | scalar (kind : Scalar)
  /-- Any untyped value, kept as it is. -/
  | any
  /-- A value that may be missing. -/
  | optional (inner : TypeExpr)
  | sequence (item : TypeExpr)
  /-- A sequence without equal items. -/
  | set (item : TypeExpr)
  /-- A map; only text keys are supported. -/
  | mapping (key value : TypeExpr)
  | record (name : String)
  | custom (name : String)
  deriving DecidableEq

def Scalar.text : Scalar → String
  | .str => "str"
  | .int => "int"
  | .float => "float"
  | .bool => "bool"

namespace TypeExpr

abbrev str : TypeExpr :=
  .scalar .str

def text : TypeExpr → String
  | .scalar kind => kind.text
  | .any => "Any"
  | .optional inner => s!"Optional[{inner.text}]"
  | .sequence item => s!"List[{item.text}]"
  | .set item => s!"Set[{item.text}]"
  | .mapping key value => s!"Dict[{key.text}, {value.text}]"
  | .record name => name
  | .custom name => name

def isOptional : TypeExpr → Bool
  | .optional _ => true
  | _ => false

/-- Whether `null` is a value of the type. -/
def acceptsNull : TypeExpr → Bool
  | .optional _ => true
  | .any => true
  | _ => false

/-- The type below all optional layers: what a value that is there has to be. -/
def required : TypeExpr → TypeExpr
  | .optional inner => inner.required
  | type => type

end TypeExpr

end Recast
