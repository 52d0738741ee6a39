/-!
# Entries: keyed values in order

A list of pairs serves as a map that remembers the order in which its keys came in.  Looking a
key up is `List.lookup`.  What the operations do to look-ups and to the list of keys is said in
`Entries.Lemmas`.
-/

namespace Recast

/-- Keyed values in the order in which their keys were first inserted. -/
abbrev Entries (α : Type) : Type :=
  List (String × α)

namespace Entries

variable {α β ε : Type}

def keys (entries : Entries α) : List String :=
  entries.map Prod.fst

def contains (entries : Entries α) (key : String) : Bool :=
  (entries.lookup key).isSome

/-- Give a key a value: in its place when the key is there, else at the end. -/
def insert : Entries α → String → α → Entries α
  | [], key, value => [(key, value)]
  | (first, old) :: rest, key, value =>
      if first = key then
        (key, value) :: rest
      else
        (first, old) :: insert rest key value

/-- Take a key out, leaving the others in order. -/
def erase : Entries α → String → Entries α
  | [], _ => []
  | (first, value) :: rest, key =>
      if first = key then
        rest
      else
        (first, value) :: erase rest key

def extend (entries : Entries α) (pairs : List (String × α)) : Entries α :=
  pairs.foldl (fun sofar pair => insert sofar pair.1 pair.2) entries

/-- The entries that a list of pairs denotes: a repeated key keeps its first place and its last
value. -/
def ofList (pairs : List (String × α)) : Entries α :=
  extend [] pairs

def mapValues (change : α → β) (entries : Entries α) : Entries β :=
  entries.map fun entry => (entry.1, change entry.2)

/-- The values of computed entries, or the first error in order. -/
def sequence : Entries (Except ε α) → Except ε (Entries α)
  | [] => .ok []
  | (key, outcome) :: rest => do
      let value ← outcome
      let others ← sequence rest
      .ok ((key, value) :: others)

/-- Take a key out: its value and the other entries, which stay in order. -/
def takeOut? (entries : Entries α) (key : String) : Option (α × Entries α) :=
  (entries.lookup key).map fun value => (value, erase entries key)

/-- Move the listed keys from `entries` to the end of `ordered`, one after the other and as far as
they are there; the entries that are left follow. -/
def drain (ordered entries : Entries α) : List String → Entries α
  | [] => extend ordered entries
  | key :: rest =>
      match entries.takeOut? key with
      | some (value, others) => drain (insert ordered key value) others rest
      | none => drain ordered entries rest

/-- Bring the keys that `layout` lists to the front, in the order of `layout`. -/
def reorder (entries : Entries α) (layout : List String) : Entries α :=
  if layout.isEmpty then
    entries
  else
    drain [] entries layout

end Entries

end Recast
