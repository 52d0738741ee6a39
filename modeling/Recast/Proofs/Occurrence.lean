/-!
# Occurrence of a part in a tree

A tree is seen through the function that lists the parts that it is directly made of.  A part
occurs in the tree when it is the tree itself or occurs in one of these parts.  What is asked of
every part of a tree is asked of the tree and of everything in its direct parts.
-/

namespace Recast

variable {α : Type}

/-- A part occurs in a whole, at any depth; the whole occurs in itself. -/
inductive Occurs (parts : α → List α) (part : α) : α → Prop
  | self : Occurs parts part part
  | inside {child whole : α} :
      child ∈ parts whole → Occurs parts part child → Occurs parts part whole

theorem Occurs.trans {parts : α → List α} {inner middle outer : α}
    (innerOccurs : Occurs parts inner middle) (middleOccurs : Occurs parts middle outer) :
    Occurs parts inner outer := by
  induction middleOccurs with
  | self => exact innerOccurs
  | inside member _ inductionHypothesis => exact .inside member inductionHypothesis

theorem Occurs.iff_eq_or_exists {parts : α → List α} {part whole : α} :
    Occurs parts part whole ↔ part = whole ∨ ∃ child ∈ parts whole, Occurs parts part child := by
  constructor
  · intro occurs
    cases occurs with
    | self => exact .inl rfl
    | inside member deeper => exact .inr ⟨_, member, deeper⟩
  · rintro (rfl | ⟨child, member, deeper⟩)
    · exact .self
    · exact .inside member deeper

/-- Every part of a tree, itself included, has the property. -/
def Everywhere (parts : α → List α) (holds : α → Prop) (whole : α) : Prop :=
  ∀ part, Occurs parts part whole → holds part

namespace Everywhere

variable {parts : α → List α} {holds : α → Prop}

theorem iff_and_forall (whole : α) :
    Everywhere parts holds whole ↔
      holds whole ∧ ∀ child ∈ parts whole, Everywhere parts holds child := by
  constructor
  · intro everywhere
    exact ⟨everywhere whole .self, fun child member part occurs =>
      everywhere part (.inside member occurs)⟩
  · rintro ⟨atTop, inside⟩ part occurs
    cases occurs with
    | self => exact atTop
    | inside member deeper => exact inside _ member part deeper

theorem here {whole : α} (everywhere : Everywhere parts holds whole) :
    holds whole :=
  everywhere whole .self

theorem inside {whole child : α} (everywhere : Everywhere parts holds whole)
    (member : child ∈ parts whole) :
    Everywhere parts holds child :=
  ((iff_and_forall whole).1 everywhere).2 child member

/-- What holds everywhere holds everywhere in each part. -/
theorem within {whole part : α} (everywhere : Everywhere parts holds whole)
    (occurs : Occurs parts part whole) :
    Everywhere parts holds part :=
  fun inner innerOccurs => everywhere inner (innerOccurs.trans occurs)

theorem mono {others : α → Prop} {whole : α} (everywhere : Everywhere parts holds whole)
    (weaker : ∀ part, holds part → others part) :
    Everywhere parts others whole :=
  fun part occurs => weaker part (everywhere part occurs)

end Everywhere

end Recast
