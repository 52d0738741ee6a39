import Recast.Text.Identifier
import Recast.Text.Unicode

/-!
# Paths

A path locates a value inside a tree, as in `pets/0/name`.  A path that is read from text holds
identifiers and decimal positions only; a path that is built component by component may hold any
key.
-/

namespace Recast

/-- Why a component does not lead to a value or is not allowed in a path. -/
inductive ComponentFault where
  | notIdentifier (fault : Text.IdentifierFault)
  | notIndex
  | outOfBounds
  | notContainer
  deriving DecidableEq

def ComponentFault.message : ComponentFault → String
  | .notIdentifier fault => fault.message
  | .notIndex => "invalid array index"
  | .outOfBounds => "array index out of bounds"
  | .notContainer => "cannot navigate through a non-container value"

/-- A path or a name that cannot be used. -/
inductive PathError where
  | invalidComponent (component : String) (position : Nat) (fault : ComponentFault)
  | invalidIdentifier (name : String) (fault : Text.IdentifierFault)
  deriving DecidableEq

def PathError.message : PathError → String
  | .invalidComponent component position fault =>
      s!"invalid path component '{component}' at position {position}: {fault.message}"
  | .invalidIdentifier name fault =>
      s!"'{name}' is not a valid identifier: {fault.message}"

/-- Check that a name can be given to a record type, a hook or a field. -/
def checkName (name : String) (alphabet : Text.Alphabet := Text.unicode) :
    Except PathError Unit :=
  match Text.identifierFault? alphabet name.toList with
  | none => .ok ()
  | some fault => .error (.invalidIdentifier name fault)

/-- The components that lead from the top of a tree to a value in it. -/
structure Path where
  components : List String
  deriving DecidableEq

namespace Path

def root : Path :=
  ⟨[]⟩

/-- The path one step below, at the given component. -/
def child (path : Path) (component : String) : Path :=
  ⟨path.components ++ [component]⟩

def index (path : Path) (position : Nat) : Path :=
  path.child (toString position)

def size (path : Path) : Nat :=
  path.components.length

def isRoot (path : Path) : Bool :=
  path.components.isEmpty

def last? (path : Path) : Option String :=
  path.components.getLast?

/-- The written form: components between slashes, and a name of its own for the top. -/
def text (path : Path) : String :=
  if path.isRoot then "<root>" else "/".intercalate path.components

/-- Paths compare component by component, and components by code points. -/
def order (left right : Path) : Ordering :=
  compare left.components right.components

/-- The runs between slashes, empty ones included. -/
def runs : List Char → List (List Char)
  | [] => [[]]
  | first :: rest =>
      if first = '/' then
        [] :: runs rest
      else
        match runs rest with
        | [] => [[first]]
        | run :: later => (first :: run) :: later

/-- What keeps the characters from being a component: a component is a position in decimal or an
identifier. -/
def componentFault? (alphabet : Text.Alphabet) (component : List Char) : Option ComponentFault :=
  if !component.isEmpty && component.all Char.isDigit then
    none
  else
    (Text.identifierFault? alphabet component).map .notIdentifier

/-- The first component that is not allowed, with its position. -/
def firstFault? (alphabet : Text.Alphabet) (position : Nat) :
    List (List Char) → Option PathError
  | [] => none
  | component :: rest =>
      match componentFault? alphabet component with
      | some fault => some (.invalidComponent (String.ofList component) position fault)
      | none => firstFault? alphabet (position + 1) rest

/-- Read a path from its written form.  Empty components do not count. -/
def parse (text : String) (alphabet : Text.Alphabet := Text.unicode) :
    Except PathError Path :=
  let components := (runs text.toList).filter fun component => !component.isEmpty
  match firstFault? alphabet 0 components with
  | some error => .error error
  | none => .ok ⟨components.map String.ofList⟩

end Path

end Recast
