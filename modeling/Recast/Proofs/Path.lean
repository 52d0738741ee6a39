import Recast.Path
import Recast.Proofs.Outcome
import Recast.Proofs.Text.Characters

/-!
# Paths and their written form

A text is a path when each of its pieces between slashes, empty ones aside, is a position in decimal
or an identifier.  No such component is empty or has a slash in it, so a path that has components,
and only such ones, is read back from its written form.
-/

namespace Recast.Path

variable {alphabet : Text.Alphabet}

/-! ## Components -/

/-- A component that a path may be written with: a position in decimal or an identifier. -/
def IsComponent (alphabet : Text.Alphabet) (component : List Char) : Prop :=
  (component ≠ [] ∧ ∀ digit ∈ component, digit.isDigit = true) ∨
    Text.IsIdentifier alphabet component

/-- All components may be written. -/
def IsWritable (alphabet : Text.Alphabet) (path : Path) : Prop :=
  ∀ component ∈ path.components, IsComponent alphabet component.toList

theorem componentFault?_eq_none_iff (alphabet : Text.Alphabet) (component : List Char) :
    componentFault? alphabet component = none ↔ IsComponent alphabet component := by
  have isPosition : (!component.isEmpty && component.all Char.isDigit) = true ↔
      component ≠ [] ∧ ∀ digit ∈ component, digit.isDigit = true := by
    rw [Bool.and_eq_true, Bool.not_eq_true', List.isEmpty_eq_false_iff, List.all_eq_true]
  rw [componentFault?, IsComponent, ← isPosition]
  split
  · next position => exact iff_of_true rfl (.inl position)
  · next noPosition =>
      rw [Option.map_eq_none_iff, Text.identifierFault?_eq_none_iff]
      exact (or_iff_right noPosition).symm

theorem IsComponent.ne_nil {component : List Char} (allowed : IsComponent alphabet component) :
    component ≠ [] :=
  allowed.elim And.left fun identifier => identifier.continues.1

/-- No component has a slash in it. -/
theorem IsComponent.slash_not_mem {component : List Char}
    (allowed : IsComponent alphabet component) :
    '/' ∉ component := by
  intro member
  rcases allowed with ⟨_, digits⟩ | identifier
  · exact absurd (digits _ member) (by decide)
  · have continues := identifier.continues.2 _ member
    rw [alphabet.isContinue_ascii '/' (by decide)] at continues
    exact absurd continues (by decide)

theorem isComponent_of_isIdentifier {name : String}
    (identifier : Text.isIdentifier alphabet name = true) :
    IsComponent alphabet name.toList :=
  .inr ((Text.isIdentifier_iff name).1 identifier)

/-- The written form of a position is a component. -/
theorem isComponent_toString (alphabet : Text.Alphabet) (position : Nat) :
    IsComponent alphabet (toString position).toList := by
  rw [Nat.toString_eq_ofList_toDigits, String.toList_ofList]
  refine .inl ⟨Nat.toDigits_ne_nil, fun digit member => ?_⟩
  exact Nat.isDigit_of_mem_toDigits (Nat.succ_pos 9) (Nat.le_refl 10) member

/-! ## Reading -/

/-- The pieces of a text between its slashes that are not empty. -/
def pieces (text : String) : List (List Char) :=
  (text.toList.splitOn '/').filter fun piece => !piece.isEmpty

theorem runs_eq_splitOn (characters : List Char) : runs characters = characters.splitOn '/' := by
  induction characters with
  | nil => rfl
  | cons first rest inductionHypothesis =>
      rw [runs, List.splitOn_cons_eq_if_modifyHead, inductionHypothesis]
      simp only [beq_iff_eq]
      refine if_congr Iff.rfl rfl ?_
      cases split : rest.splitOn '/' with
      | nil => exact absurd split (List.splitOn_ne_nil _ _)
      | cons run later => rfl

theorem firstFault?_eq_none_iff (alphabet : Text.Alphabet) (position : Nat)
    (components : List (List Char)) :
    firstFault? alphabet position components = none ↔
      ∀ component ∈ components, IsComponent alphabet component := by
  induction components generalizing position with
  | nil => simp [firstFault?]
  | cons component rest inductionHypothesis =>
      rw [firstFault?, List.forall_mem_cons, ← componentFault?_eq_none_iff]
      cases componentFault? alphabet component with
      | none => simp [inductionHypothesis]
      | some fault => simp

/-- The fault is that of the first component that is not allowed, and its position is how many
components stand before it. -/
theorem firstFault?_eq_some_iff (alphabet : Text.Alphabet) (position : Nat)
    (components : List (List Char)) (error : PathError) :
    firstFault? alphabet position components = some error ↔
      Outcome.FirstFailure (IsComponent alphabet)
        (fun before component => ∃ fault, componentFault? alphabet component = some fault ∧
          error = .invalidComponent (String.ofList component) (position + before) fault)
        components := by
  induction components generalizing position with
  | nil => simp [firstFault?, Outcome.not_firstFailure_nil]
  | cons component rest inductionHypothesis =>
      rw [firstFault?, Outcome.firstFailure_cons_iff, ← componentFault?_eq_none_iff]
      cases componentFault? alphabet component with
      | none => simp [inductionHypothesis, Nat.add_assoc, Nat.add_comm 1]
      | some fault => simp [eq_comm]

theorem parse_eq_ok_iff (alphabet : Text.Alphabet) (text : String) (path : Path) :
    parse text alphabet = .ok path ↔
      (∀ piece ∈ pieces text, IsComponent alphabet piece) ∧
        path.components = (pieces text).map String.ofList := by
  rw [← firstFault?_eq_none_iff alphabet 0, parse, runs_eq_splitOn, ← pieces]
  obtain ⟨components⟩ := path
  cases firstFault? alphabet 0 (pieces text) with
  | none => simp [eq_comm]
  | some error => simp

theorem parse_eq_error_iff (alphabet : Text.Alphabet) (text : String) (error : PathError) :
    parse text alphabet = .error error ↔
      Outcome.FirstFailure (IsComponent alphabet)
        (fun position piece => ∃ fault, componentFault? alphabet piece = some fault ∧
          error = .invalidComponent (String.ofList piece) position fault)
        (pieces text) := by
  have atZero := firstFault?_eq_some_iff alphabet 0 (pieces text) error
  simp only [Nat.zero_add] at atZero
  rw [← atZero, parse, runs_eq_splitOn, ← pieces]
  cases firstFault? alphabet 0 (pieces text) <;> simp

/-! ## Printing -/

/-- The pieces of the written form are the components. -/
theorem IsWritable.pieces_text {path : Path} (writable : path.IsWritable alphabet)
    (below : path ≠ .root) :
    pieces path.text = path.components.map String.toList := by
  obtain ⟨components⟩ := path
  have someComponent : components ≠ [] := fun none => below (congrArg Path.mk none)
  have eachAllowed :
      ∀ component ∈ components.map String.toList, IsComponent alphabet component :=
    List.forall_mem_map.2 writable
  have written : (text ⟨components⟩).toList =
      ['/'].intercalate (components.map String.toList) := by
    rw [text, isRoot, if_neg (by simpa using someComponent), String.toList_intercalate]
    rfl
  rw [pieces, written, List.splitOn_intercalate '/'
    (fun component member => (eachAllowed component member).slash_not_mem) (by simpa)]
  refine List.filter_eq_self.2 fun component member => ?_
  simpa using (eachAllowed component member).ne_nil

/-- A path below the top is read back from its written form exactly if its components may be
written. -/
theorem parse_text_eq_ok_iff {path : Path} (below : path ≠ .root) :
    parse path.text alphabet = .ok path ↔ path.IsWritable alphabet := by
  constructor
  · intro read component member
    obtain ⟨allowed, isRead⟩ := (parse_eq_ok_iff _ _ _).1 read
    rw [isRead] at member
    obtain ⟨piece, pieceMember, rfl⟩ := List.mem_map.1 member
    rw [String.toList_ofList]
    exact allowed piece pieceMember
  · intro writable
    rw [parse_eq_ok_iff, writable.pieces_text below]
    refine ⟨List.forall_mem_map.2 writable, ?_⟩
    simp

end Recast.Path
