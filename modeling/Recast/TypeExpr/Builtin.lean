import Recast.TypeExpr.Basic

/-!
# Built-in type names

Each built-in name stands for a way to make a type of its arguments.  Several names may stand for
the same way.  Every other name takes no arguments and refers to a record type.
-/

namespace Recast

/-- The ways to make a type that have a name of their own. -/
inductive Builtin where
  | scalar (kind : Scalar)
  | any
  | optional
  | sequence
  | set
  | mapping
  deriving DecidableEq

namespace Builtin

/-- The built-in names and what they stand for. -/
def names : List (String × Builtin) :=
  [("str", .scalar .str), ("int", .scalar .int), ("float", .scalar .float),
    ("bool", .scalar .bool), ("Any", .any), ("Optional", .optional), ("List", .sequence),
    ("list", .sequence), ("Sequence", .sequence), ("Set", .set), ("set", .set),
    ("Dict", .mapping), ("dict", .mapping), ("Mapping", .mapping)]

/-- What a name stands for, if it is built in. -/
def ofName? (name : String) : Option Builtin :=
  names.lookup name

def arity : Builtin → Nat
  | .scalar _ => 0
  | .any => 0
  | .optional => 1
  | .sequence => 1
  | .set => 1
  | .mapping => 2

/-- The type made of the arguments, if their number is right. -/
def make? : Builtin → List TypeExpr → Option TypeExpr
  | .scalar kind, [] => some (.scalar kind)
  | .any, [] => some .any
  | .optional, [inner] => some (.optional inner)
  | .sequence, [item] => some (.sequence item)
  | .set, [item] => some (.set item)
  | .mapping, [key, value] => some (.mapping key value)
  | _, _ => none

end Builtin

namespace TypeExpr

/-- Whether a name always stands for a built-in type and can be given to nothing else. -/
def isBuiltinName (name : String) : Bool :=
  (Builtin.ofName? name).isSome

/-- The number of type arguments that a name takes. -/
def arityOf (name : String) : Nat :=
  match Builtin.ofName? name with
  | some builtin => builtin.arity
  | none => 0

/-- The type that a name with arguments denotes, if their number is right. -/
def ofName? (name : String) (arguments : List TypeExpr) : Option TypeExpr :=
  match Builtin.ofName? name with
  | some builtin => builtin.make? arguments
  | none => if arguments.isEmpty then some (.record name) else none

end TypeExpr

end Recast
