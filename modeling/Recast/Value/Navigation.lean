import Recast.Path
import Recast.Text.Decimal
import Recast.Value.Basic

/-!
# Reading and changing a tree along a path

A component leads into a map by its key and into an array by the position that it denotes.
Writing creates the maps that a path lacks and may add one item at the end of an array; that it
leaves no trace where it is stopped is proved in `Proofs.Value.Stopping`.  Removing keeps the order
of what remains.
-/

namespace Recast.Value

/-- The value one step below. -/
def child? (value : Value) (component : String) : Option Value :=
  match value with
  | .map entries => entries.lookup component
  | .array items => (Text.indexValue? component).bind fun position => items[position]?
  | _ => none

/-- The value that the components lead to. -/
def getAt? (value : Value) : List String → Option Value
  | [] => some value
  | component :: rest => (value.child? component).bind fun child => child.getAt? rest

def get? (value : Value) (path : Path) : Option Value :=
  value.getAt? path.components

/-- The value below one step of a path that a value is written along.  What is not there yet is
entered as an empty map: any key of a map and, on the last step, the place behind the items of an
array. -/
def enter (component : String) (isLast : Bool) : Value → Except ComponentFault Value
  | .map entries => .ok ((entries.lookup component).getD (.map []))
  | .array items =>
      match Text.indexValue? component with
      | none => .error .notIndex
      | some place =>
          match items[place]? with
          | some item => .ok item
          | none =>
              if isLast && place == items.length then
                .ok (.map [])
              else
                .error .outOfBounds
  | _ => .error .notContainer

/-- The container with `child` below the step. -/
def withChild (value : Value) (component : String) (child : Value) : Value :=
  match value with
  | .map entries => .map (Entries.insert entries component child)
  | .array items =>
      match Text.indexValue? component with
      | none => .array items
      | some place =>
          if place < items.length then
            .array (items.set place child)
          else
            .array (items ++ [child])
  | scalar => scalar

/-- Put `new` where the components lead to; `position` counts the components passed before.  Maps
that are missing are made on the way down, before it is known whether the rest of the way is open.
The result is what stopped the way, if anything did, and the tree as it is left. -/
def storeAt (new : Value) (position : Nat) : List String → Value → Option PathError × Value
  | [], _ => (none, new)
  | component :: rest, value =>
      match value.enter component rest.isEmpty with
      | .error fault => (some (.invalidComponent component position fault), value)
      | .ok child =>
          let (stopped?, left) := storeAt new (position + 1) rest child
          (stopped?, value.withChild component left)

/-- Put a value at the path in place: what stopped the way, and the tree as it is left. -/
def store (value : Value) (path : Path) (new : Value) : Option PathError × Value :=
  storeAt new 0 path.components value

/-- Put a value at the path, creating the maps that lead there. -/
def set (value : Value) (path : Path) (new : Value) : Except PathError Value :=
  match value.store path new with
  | (none, changed) => .ok changed
  | (some error, _) => .error error

/-- Put `new` in the place of the value that the components lead to, if there is one. -/
def replaceAt? (new : Value) : List String → Value → Option Value
  | [], _ => some new
  | component :: rest, .map entries => do
      let child ← (entries.lookup component).bind (replaceAt? new rest)
      some (.map (Entries.insert entries component child))
  | component :: rest, .array items => do
      let place ← Text.indexValue? component
      let child ← items[place]?.bind (replaceAt? new rest)
      some (.array (items.set place child))
  | _ :: _, _ => none

/-- Put `new` in the place of the value at the path, if there is one. -/
def replace? (value : Value) (path : Path) (new : Value) : Option Value :=
  replaceAt? new path.components value

/-- Take out what stands under the component: that value and what is left of the container. -/
def takeChild? (component : String) : Value → Option (Value × Value)
  | .map entries =>
      (Entries.takeOut? entries component).map fun (removed, others) => (removed, .map others)
  | .array items => do
      let place ← Text.indexValue? component
      if inBounds : place < items.length then
        some (items[place], .array (items.eraseIdx place))
      else
        none
  | _ => none

/-- Take out the value that the components lead to: that value and what is left. -/
def removeAt? : List String → Value → Option (Value × Value)
  | [], value => some (value, .null)
  | [component], value => value.takeChild? component
  | component :: rest, value => do
      let child ← value.child? component
      let (removed, left) ← removeAt? rest child
      let whole ← replaceAt? left [component] value
      some (removed, whole)

/-- Take out the value at the path: that value, if there is one, and what is left.  Without its
top a tree is `null`. -/
def remove (value : Value) (path : Path) : Option Value × Value :=
  match removeAt? path.components value with
  | some (removed, left) => (some removed, left)
  | none => (none, value)

end Recast.Value
