import Recast.Text.Blank
import Recast.Text.Unicode
import Recast.TypeExpr.Builtin

/-!
# Reading annotations

An annotation is a type in writing: a name, which may have type arguments between brackets,
separated by commas.  Blanks may stand before every token and at the end.  A name is a run, as
long as possible, of underscores and characters that may stand inside identifiers.

Reading stops at the first fault.  The reader hands on the input that is still unread, so the
offset of a fault is the size of what comes before it.
-/

namespace Recast

/-- Why an annotation cannot be read. -/
inductive AnnotationFault where
  | expectedName
  | expectedBracket
  | wrongArity (name : String) (expected found : Nat)
  | trailing (rest : String)
  deriving DecidableEq

def AnnotationFault.message : AnnotationFault → String
  | .expectedName => "expected a type name"
  | .expectedBracket => "expected ']'"
  | .wrongArity name expected found =>
      s!"'{name}' takes {expected} type argument(s), found {found}"
  | .trailing rest => s!"unexpected trailing input '{rest}'"

/-- An annotation that cannot be read: the text, the offset of the fault in bytes, and the
fault. -/
structure AnnotationError where
  source : String
  offset : Nat
  fault : AnnotationFault
  deriving DecidableEq

def AnnotationError.message (error : AnnotationError) : String :=
  s!"cannot parse annotation '{error.source}' at offset {error.offset}: " ++
    error.fault.message

namespace TypeExpr

section Reader

variable (alphabet : Text.Alphabet)

def isNameCharacter (tested : Char) : Bool :=
  tested == '_' || alphabet.isContinue tested

/-- A fault, with the input from the fault on. -/
structure Stop where
  rest : List Char
  fault : AnnotationFault

/-- Something read off the front of `input`, with the rest, which is shorter. -/
structure Reading (input : List Char) (α : Type) where
  value : α
  rest : List Char
  shorter : rest.length < input.length

/-- The input after the expected character and the blanks before it. -/
def eat? (expected : Char) (input : List Char) : Option (List Char) :=
  match Text.skipBlank input with
  | [] => none
  | first :: rest => if first = expected then some rest else none

theorem length_lt_of_eat? {expected : Char} {input rest : List Char}
    (eaten : eat? expected input = some rest) :
    rest.length < input.length := by
  have bound := Text.length_skipBlank_le input
  unfold eat? at eaten
  split at eaten
  · contradiction
  · next first remaining skipped =>
      split at eaten
      · cases eaten
        simp only [skipped, List.length_cons] at bound
        omega
      · contradiction

/-- The name at the front of the input; empty if there is none. -/
def nameAtFront (input : List Char) : List Char :=
  (Text.skipBlank input).takeWhile (isNameCharacter alphabet)

/-- What follows the name at the front of the input. -/
def afterName (input : List Char) : List Char :=
  (Text.skipBlank input).dropWhile (isNameCharacter alphabet)

theorem length_afterName_lt {alphabet : Text.Alphabet} {input : List Char}
    (named : nameAtFront alphabet input ≠ []) :
    (afterName alphabet input).length < input.length := by
  have bound := Text.length_skipBlank_le input
  have parts : nameAtFront alphabet input ++ afterName alphabet input =
      Text.skipBlank input :=
    List.takeWhile_append_dropWhile
  have lengths := congrArg List.length parts
  simp only [List.length_append] at lengths
  have positive : 0 < (nameAtFront alphabet input).length := List.length_pos_iff.2 named
  omega

/-- Make a type of a name and its arguments.  A wrong number of arguments is reported at
`start`, where the reading of this type began. -/
def applyName (start name : List Char) (arguments : List TypeExpr) : Except Stop TypeExpr :=
  match ofName? (String.ofList name) arguments with
  | some type => .ok type
  | none =>
      .error ⟨start,
        .wrongArity (String.ofList name) (arityOf (String.ofList name)) arguments.length⟩

mutual

def readType (input : List Char) : Except Stop (Reading input TypeExpr) :=
  if named : nameAtFront alphabet input = [] then
    .error ⟨Text.skipBlank input, .expectedName⟩
  else
    have afterShorter := length_afterName_lt named
    match opened : eat? '[' (afterName alphabet input) with
    | none =>
        match applyName input (nameAtFront alphabet input) [] with
        | .error stop => .error stop
        | .ok type => .ok ⟨type, afterName alphabet input, afterShorter⟩
    | some inside =>
        have insideShorter := length_lt_of_eat? opened
        match readArguments inside with
        | .error stop => .error stop
        | .ok arguments =>
            have argumentsShorter := arguments.shorter
            match closed : eat? ']' arguments.rest with
            | none => .error ⟨Text.skipBlank arguments.rest, .expectedBracket⟩
            | some rest =>
                have restShorter := length_lt_of_eat? closed
                match applyName input (nameAtFront alphabet input) arguments.value with
                | .error stop => .error stop
                | .ok type => .ok ⟨type, rest, by omega⟩
termination_by 2 * input.length

/-- Read one or more types separated by commas. -/
def readArguments (input : List Char) : Except Stop (Reading input (List TypeExpr)) :=
  match readType input with
  | .error stop => .error stop
  | .ok first =>
      have firstShorter := first.shorter
      match separated : eat? ',' first.rest with
      | none => .ok ⟨[first.value], first.rest, first.shorter⟩
      | some next =>
          have nextShorter := length_lt_of_eat? separated
          match readArguments next with
          | .error stop => .error stop
          | .ok others =>
              have othersShorter := others.shorter
              .ok ⟨first.value :: others.value, others.rest, by omega⟩
termination_by 2 * input.length + 1

end

end Reader

/-- The error of an annotation whose reading stopped. -/
def Stop.locate (source : String) (stop : Stop) : AnnotationError where
  source := source
  offset := Text.byteSize source.toList - Text.byteSize stop.rest
  fault := stop.fault

/-- Read an annotation as a type.  The names in it are those of the alphabet. -/
def parse (source : String) (alphabet : Text.Alphabet := Text.unicode) :
    Except AnnotationError TypeExpr :=
  match readType alphabet source.toList with
  | .error stop => .error (stop.locate source)
  | .ok reading =>
      match Text.skipBlank reading.rest with
      | [] => .ok reading.value
      | rest => .error (Stop.locate source ⟨rest, .trailing (String.ofList rest)⟩)

end TypeExpr

end Recast
