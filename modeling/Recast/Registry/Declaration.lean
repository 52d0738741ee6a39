import Recast.Registry.Hosted
import Recast.Registry.Structuring
import Recast.TypeExpr.Parser

/-!
# Declaring record types and hooks

A declaration is checked against the registry as it is so far, so a record type can only refer to
types that are there already and never to itself.  Types may be given as annotations or as trees;
either way every name in them is looked up.  Defaults are structured at once.  A declaration that
fails leaves the registry as it was.
-/

namespace Recast

variable {Payload : Type} [BEq Payload]

/-- The type of a field as it is declared. -/
inductive Annotation where
  | written (text : String)
  | tree (type : TypeExpr)

structure FieldSpec where
  name : String
  type : Annotation
  default? : Option Value := none

structure RecordSpec where
  name : String
  isOpen : Bool
  fields : List FieldSpec

inductive DeclarationError where
  | invalidName (error : PathError)
  | duplicateField (record field : String)
  | duplicateType (name : String)
  | unreadableType (record field : String) (error : AnnotationError)
  | unknownType (record field name : String)
  | unsupportedKey (record field : String) (key : TypeExpr)
  | cycle (record field : String)
  | incompatibleDefault (record field : String) (error : StructureError)
  deriving DecidableEq

def DeclarationError.message : DeclarationError → String
  | .invalidName error => s!"invalid name: {error.message}"
  | .duplicateField record field =>
      s!"record type '{record}' declares field '{field}' more than once"
  | .duplicateType name => s!"a type named '{name}' is already registered"
  | .unreadableType record field error => s!"field '{field}' of '{record}': {error.message}"
  | .unknownType record field name =>
      s!"field '{field}' of '{record}' refers to unknown type '{name}'"
  | .unsupportedKey record field key =>
      s!"field '{field}' of '{record}': mapping keys must be str, found {key.text}"
  | .cycle record field => s!"field '{field}' of '{record}' refers to '{record}' itself"
  | .incompatibleDefault record field error =>
      s!"default for field '{field}' of '{record}' does not match its type: {error.message}"

/-- The type that an annotation gives, with its names not yet looked up. -/
def Annotation.read (given : Annotation) (alphabet : Text.Alphabet := Text.unicode) :
    Except AnnotationError TypeExpr :=
  match given with
  | .written text => TypeExpr.parse text alphabet
  | .tree type => .ok type

namespace Registry

/-- Check that a name can be given to a new type. -/
def checkNewName (alphabet : Text.Alphabet) (registry : Registry Payload) (name : String) :
    Except DeclarationError Unit := do
  (checkName name alphabet).mapError .invalidName
  if registry.contains name || TypeExpr.isBuiltinName name then
    .error (.duplicateType name)
  else
    .ok ()

/-- Look up a name in the type of a field. -/
def resolveName (registry : Registry Payload) (record field name : String) :
    Except DeclarationError TypeExpr :=
  if name = record then
    .error (.cycle record field)
  else if registry.hasRecord name then
    .ok (.record name)
  else if registry.hasHook name then
    .ok (.custom name)
  else
    .error (.unknownType record field name)

/-- Look up all names in the type of a field, and check that all maps have text keys. -/
def resolve (registry : Registry Payload) (record field : String) :
    TypeExpr → Except DeclarationError TypeExpr
  | .scalar kind => .ok (.scalar kind)
  | .any => .ok .any
  | .optional inner => (registry.resolve record field inner).map .optional
  | .sequence item => (registry.resolve record field item).map .sequence
  | .set item => (registry.resolve record field item).map .set
  | .mapping key value =>
      if key = .str then
        (registry.resolve record field value).map (.mapping .str)
      else
        .error (.unsupportedKey record field key)
  | .record name => registry.resolveName record field name
  | .custom name => registry.resolveName record field name

/-- The default of a field of the given type. -/
def describeDefault (registry : Registry Payload) (record field : String) (type : TypeExpr) :
    Option Value → Except DeclarationError (Option (FieldDefault (Typed Payload)))
  | none => .ok none
  | some raw =>
      match registry.structureAt raw (Path.root.child field) type with
      | .ok typed => .ok (some ⟨raw, typed⟩)
      | .error error => .error (.incompatibleDefault record field error)

/-- Turn the declaration of a field into a field; `earlier` names the fields before it. -/
def describeField (alphabet : Text.Alphabet) (registry : Registry Payload) (record : String)
    (earlier : List String) (spec : FieldSpec) :
    Except DeclarationError (Field (Typed Payload)) := do
  (checkName spec.name alphabet).mapError .invalidName
  if earlier.contains spec.name then
    .error (.duplicateField record spec.name)
  else
    let written ← (spec.type.read alphabet).mapError (.unreadableType record spec.name)
    let type ← registry.resolve record spec.name written
    let default? ← registry.describeDefault record spec.name type spec.default?
    .ok (Field.attachValidator ⟨spec.name, type, default?, none⟩)

/-- Turn the declarations of fields into fields, until one fails. -/
def describeFields (alphabet : Text.Alphabet) (registry : Registry Payload) (record : String)
    (earlier : List String) :
    List FieldSpec → Except DeclarationError (List (Field (Typed Payload)))
  | [] => .ok []
  | spec :: rest => do
      let field ← registry.describeField alphabet record earlier spec
      let others ← registry.describeFields alphabet record (earlier ++ [spec.name]) rest
      .ok (field :: others)

/-- Turn the declaration of a record type into a record type. -/
def describe (alphabet : Text.Alphabet) (registry : Registry Payload) (spec : RecordSpec) :
    Except DeclarationError (RecordType (Typed Payload)) := do
  registry.checkNewName alphabet spec.name
  let fields ← registry.describeFields alphabet spec.name [] spec.fields
  .ok ⟨spec.name, spec.isOpen, fields⟩

/-- Add a record type: the type and the registry with it. -/
def declare (alphabet : Text.Alphabet) (registry : Registry Payload) (spec : RecordSpec) :
    Except DeclarationError (RecordType (Typed Payload) × Registry Payload) := do
  let recordType ← registry.describe alphabet spec
  .ok (recordType, { registry with records := registry.records ++ [recordType] })

/-- Add a hook: the registry with it. -/
def register (alphabet : Text.Alphabet) (registry : Registry Payload) (name : String)
    (hook : Hook Payload) : Except DeclarationError (Registry Payload) := do
  registry.checkNewName alphabet name
  .ok { registry with hooks := registry.hooks ++ [(name, hook)] }

/-- Add the hook of conversions of one host type: the registry with it. -/
def registerHook {Host : Type} [DecidableEq Host] {Carrier : Host → Type}
    (alphabet : Text.Alphabet) (registry : Registry (Hosted Carrier)) (name : String)
    (hostHook : HostHook Carrier) : Except DeclarationError (Registry (Hosted Carrier)) :=
  registry.register alphabet name hostHook.hook

end Registry

end Recast
