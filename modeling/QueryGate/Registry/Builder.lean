import QueryGate.Registry.Basic
import QueryGate.Number.Integer
/-!
Building registries step by step. A builder takes one property after another, refuses a property whose
name is empty, taken or no single value or whose type is unknown, and can build a registry at any time;
registries built earlier are not touched by later steps.
-/

namespace QueryGate

inductive RegistryError where
  | emptyName (entity : String)
  | repeatedName (entity : String) (name : Atom)
  | unknownType (value : Value)
  | overlongName
  | compositeName
  | declaration (entity : String)
  | properties (entity : String)
  | options (entity name typeName : String)
  | unknownOptions (entity name : String) (options : List Atom)
  | mixedOptions
  | unreadable (path reason : String)
  | undecodable
  | nullInPath
  | yaml (path : String)
  | tooDeep
  | overlongNumber (digits : Nat)
  | noCharacter
  | hugeCode
  | noMapping (path : String)
  | noEntities (path : String)

/-- The message of a refused registry. Names that are no single value, option names of several types, bytes
that spell no text and documents that cannot be read for another reason than their layout have none, and
neither has what cannot be told without a number with too many digits. -/
def RegistryError.message? : RegistryError → Option String
  | .emptyName entity => some ("Empty property name in '" ++ entity ++ "'")
  | .repeatedName entity name =>
    name.plain?.map fun shown => "Property '" ++ shown ++ "' declared twice in '" ++ entity ++ "'"
  | .unknownType value => value.literal?.map fun shown => "Unknown property type: " ++ shown
  | .declaration entity => some ("Declaration for '" ++ entity ++ "' must be a mapping")
  | .properties entity => some ("'properties' of '" ++ entity ++ "' must be a mapping")
  | .options entity name typeName =>
    some ("Options for '" ++ entity ++ "." ++ name ++ "' must be a mapping, got " ++ typeName)
  | .unknownOptions entity name unknown =>
    (Value.list (unknown.map Value.atom)).literal?.map fun shown =>
      "Unknown options for '" ++ entity ++ "." ++ name ++ "': " ++ shown
  | .unreadable path reason => some ("Cannot read registry file " ++ path ++ ": " ++ reason)
  | .yaml path => some ("Invalid YAML in registry file " ++ path)
  | .noMapping path => some ("Registry file " ++ path ++ " must contain a mapping")
  | .noEntities path => some ("Registry file " ++ path ++ " has no 'entities' mapping")
  | .overlongName | .compositeName | .mixedOptions | .undecodable | .nullInPath | .tooDeep
  | .overlongNumber _ | .noCharacter | .hugeCode => none

def RegistryError.bareMessage : RegistryError → String
  | .nullInPath => "embedded null byte"
  | .overlongNumber digits => Number.overlongMessage digits
  | .noCharacter => "chr() arg not in range(0x110000)"
  | _ => Number.limitMessage ""

structure Exposure where
  publicName : Value
  name : Value
  type : Value
  filterable : Value

/-- A registry in the making. A property may be given a canonical name with parts, but then no registry
can be built any more. -/
structure Builder where
  entity : String
  identityField : Value
  properties : List Property
  composite : Bool

namespace Builder

def start (entity : String) (identityField : Value) : Builder := ⟨entity, identityField, [], false⟩

/-- The canonical name of a property: its public name if no other is given. -/
def canonicalName (publicName : Atom) (name : Value) : Atom :=
  if name.isVacant then publicName
  else match name with
    | .atom leaf => leaf
    | _ => publicName

def hasName (builder : Builder) (name : Atom) : Bool :=
  builder.properties.any fun property => property.publicName.sameKey name

def exposeAs (builder : Builder) (publicName : Atom) (exposure : Exposure) :
    Except RegistryError Builder :=
  if builder.hasName publicName then .error (.repeatedName builder.entity publicName)
  else match ValueType.ofValue? exposure.type with
    | none => .error (.unknownType exposure.type)
    | some valueType =>
      let property : Property :=
        ⟨publicName, canonicalName publicName exposure.name, valueType, exposure.filterable⟩
      .ok { builder with
        properties := builder.properties ++ [property]
        composite := builder.composite || (exposure.name.isContainer && !exposure.name.isVacant) }

def expose (builder : Builder) (exposure : Exposure) : Except RegistryError Builder :=
  if exposure.publicName.isVacant then .error (.emptyName builder.entity)
  else match exposure.publicName with
    | .atom name => builder.exposeAs name exposure
    | _ => .error .compositeName

/-- Exposes properties in order, up to the first that is refused. -/
def exposeAll (builder : Builder) : List Exposure → Except RegistryError Builder
  | [] => .ok builder
  | exposure :: exposures => do
    let builder ← builder.expose exposure
    exposeAll builder exposures

def build (builder : Builder) : Except RegistryError Registry :=
  if builder.composite then .error .compositeName
  else .ok ⟨builder.entity, builder.identityField, builder.properties⟩

end Builder

end QueryGate
