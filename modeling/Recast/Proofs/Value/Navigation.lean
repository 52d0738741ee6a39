import Recast.Proofs.Value.Equality
import Recast.Value.Navigation

/-!
# Where a path leads

The written form of an array position denotes that position, and an item or entry is found under
the component that is put in front of a path when the path is seen from the container.
-/

namespace Recast

/-! ## Positions in decimal -/

namespace Text

theorem isDigit_of_mem_toDigits_ten {number : Nat} {digit : Char}
    (member : digit ∈ Nat.toDigits 10 number) :
    digit.isDigit = true :=
  Nat.isDigit_of_mem_toDigits (Nat.succ_pos 9) (Nat.le_refl 10) member

theorem decimalValue?_toDigits (number : Nat) :
    decimalValue? (Nat.toDigits 10 number) = some number := by
  have digits : ∀ digit ∈ Nat.toDigits 10 number, digit.isDigit = true :=
    fun digit member => isDigit_of_mem_toDigits_ten member
  rw [decimalValue?, if_pos (by simpa [Nat.toDigits_ne_nil] using digits)]
  exact congrArg some (Nat.ofDigitChars_ten_toDigits (n := number))

/-- A position is what its written form denotes, as long as it fits a machine word. -/
theorem indexValue?_toString {position : Nat} (fits : position < UInt64.size) :
    indexValue? (toString position) = some position := by
  have written : (toString position).toList = Nat.toDigits 10 position := by
    rw [Nat.toString_eq_ofList_toDigits, String.toList_ofList]
  have unsigned : ∀ rest, Nat.toDigits 10 position ≠ '+' :: rest := by
    intro rest signed
    have member : '+' ∈ Nat.toDigits 10 position := by
      rw [signed]
      exact List.mem_cons_self
    exact absurd (isDigit_of_mem_toDigits_ten member) (by decide)
  have digits : indexValue? (toString position) =
      (decimalValue? (Nat.toDigits 10 position)).filter (· < UInt64.size) := by
    rw [indexValue?, written]
    split
    · next rest signed => exact absurd signed (unsigned rest)
    · rfl
  rw [digits, decimalValue?_toDigits, Option.filter_some, if_pos (by simpa using fits)]

end Text

/-! ## Parts under their components -/

namespace Value

/-- Positions in all arrays of the tree fit a machine word, as they do on every machine. -/
def Addressable (value : Value) : Prop :=
  Everywhere parts (fun part => ∀ items, part = .array items → items.length ≤ UInt64.size) value

theorem addressable_string (text : String) : (Value.string text).Addressable := by
  rw [Addressable, Everywhere.iff_and_forall]
  simp [parts]

theorem addressable_array_iff (items : List Value) :
    (Value.array items).Addressable ↔
      items.length ≤ UInt64.size ∧ ∀ item ∈ items, item.Addressable := by
  rw [Addressable, Everywhere.iff_and_forall]
  refine and_congr_left fun _ => ⟨fun fits => fits items rfl, ?_⟩
  rintro fits _ ⟨rfl⟩
  exact fits

theorem addressable_map_iff (entries : Entries Value) :
    (Value.map entries).Addressable ↔ ∀ entry ∈ entries, entry.2.Addressable := by
  rw [Addressable, Everywhere.iff_and_forall, parts, List.forall_mem_map]
  refine and_iff_right fun items isArray => ?_
  contradiction

theorem getAt?_item {items : List Value} {position : Nat} {item : Value}
    (fits : items.length ≤ UInt64.size) (found : items[position]? = some item)
    (components : List String) :
    (Value.array items).getAt? (toString position :: components) = item.getAt? components := by
  obtain ⟨inBounds, _⟩ := List.getElem?_eq_some_iff.1 found
  rw [getAt?, child?, Text.indexValue?_toString (by omega), Option.bind_some, found,
    Option.bind_some]

theorem getAt?_entry {entries : Entries Value} {key : String} {value : Value}
    (found : entries.lookup key = some value) (components : List String) :
    (Value.map entries).getAt? (key :: components) = value.getAt? components := by
  rw [getAt?, child?, found, Option.bind_some]

end Value

end Recast
