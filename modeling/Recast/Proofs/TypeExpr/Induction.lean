import Recast.TypeExpr.Basic

/-!
# Induction on a type and a value together

Structuring and admission go down a type and a value side by side.  Below an optional layer the
value stays the same and the type gets smaller; every other step goes to a part of the value, and
below a record it may be of any type.  Hence a property of types and values is proved by induction
on the parts of values first, and for one value by induction on types.
-/

namespace Recast.TypeExpr

variable {Node : Type} {parts : Node → List Node}

/-- What passes through optional layers, and from parts of values of whatever type to the values,
holds of all types and values for which there is induction on parts. -/
theorem inductionWithParts
    (partsInduction : ∀ {holds : Node → Prop},
      (∀ node, (∀ part ∈ parts node, holds part) → holds node) → ∀ node, holds node)
    {motive : TypeExpr → Node → Prop}
    (optional : ∀ inner node, motive inner node → motive (.optional inner) node)
    (scalar : ∀ kind node, motive (.scalar kind) node)
    (any : ∀ node, motive .any node)
    (sequence : ∀ item node, (∀ part ∈ parts node, ∀ type, motive type part) →
      motive (.sequence item) node)
    (set : ∀ item node, (∀ part ∈ parts node, ∀ type, motive type part) →
      motive (.set item) node)
    (mapping : ∀ key value node, (∀ part ∈ parts node, ∀ type, motive type part) →
      motive (.mapping key value) node)
    (record : ∀ name node, (∀ part ∈ parts node, ∀ type, motive type part) →
      motive (.record name) node)
    (custom : ∀ name node, motive (.custom name) node)
    (type : TypeExpr) (node : Node) :
    motive type node := by
  have allTypes : ∀ node, ∀ type, motive type node := by
    refine partsInduction fun node inductionOnParts => ?_
    intro type
    induction type with
    | optional inner inductionOnType => exact optional inner node inductionOnType
    | scalar kind => exact scalar kind node
    | any => exact any node
    | sequence item _ => exact sequence item node inductionOnParts
    | set item _ => exact set item node inductionOnParts
    | mapping key value _ _ => exact mapping key value node inductionOnParts
    | record name => exact record name node inductionOnParts
    | custom name => exact custom name node
  exact allTypes node type

end Recast.TypeExpr
