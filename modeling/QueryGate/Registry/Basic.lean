import QueryGate.Value.Display
import QueryGate.Value.Order
import QueryGate.Text.LetterCase
/-!
Which properties of an entity callers may filter on. Every property has a public name, the canonical
name of the field it stands for, and a type that says how its values are read. A name given by a caller
is looked up among the public names first and among the canonical names second, so that a filter whose
names are canonical already keeps its meaning. Names are atoms of any kind, but callers write texts, so
only names that are texts can be found.
-/

namespace QueryGate

inductive ValueType where
  | plain
  | date
deriving DecidableEq, Repr

namespace ValueType

def all : List ValueType := [plain, date]

def name : ValueType → String
  | plain => "plain"
  | date => "date"

/-- The type that a declared value names, in letters of either case. No value is the plain type. -/
def ofValue? : Value → Option ValueType
  | .null => some plain
  | value => do
    let said ← value.plain?
    all.find? fun type => type.name == Text.lower said

end ValueType

def defaultIdentityField : String := "_id"

/-- A property that callers know. Whether they may filter on it is said by any value: they may unless
that value counts as not given. -/
structure Property where
  publicName : Atom
  canonicalName : Atom
  valueType : ValueType
  filterable : Value

def Property.isDate (property : Property) : Bool := property.valueType == .date

def Property.isFilterable (property : Property) : Bool := !property.filterable.isVacant

/-- The exposed properties of one entity, in the order of their declaration. -/
structure Registry where
  entity : String
  identityField : Value
  properties : List Property

namespace Registry

def lookup (registry : Registry) (name : String) : Option Property :=
  registry.properties.find? fun property => property.publicName == .text name

def byCanonicalName (registry : Registry) (name : String) : Option Property :=
  registry.properties.reverse.find? fun property => property.canonicalName == .text name

/-- The property with a public name, or else with a canonical name. -/
def resolve (registry : Registry) (name : String) : Option Property :=
  (registry.lookup name).or (registry.byCanonicalName name)

def resolveFilterable (registry : Registry) (name : String) : Option Property :=
  (registry.resolve name).filter Property.isFilterable

def contains (registry : Registry) (name : String) : Bool := (registry.lookup name).isSome

def size (registry : Registry) : Nat := registry.properties.length

def filterable (registry : Registry) : List Property :=
  registry.properties.filter Property.isFilterable

def isIdentity (registry : Registry) (name : String) : Bool :=
  match registry.identityField with
  | .text field => field == name
  | _ => false

def sortedNames? (registry : Registry) : Option (List Atom) :=
  sortAtoms? (registry.properties.map Property.publicName)

def literal? (registry : Registry) (names : List Atom) : Option String :=
  (Value.list (names.map Value.atom)).literal?.map fun shown =>
    "PropertyRegistry(" ++ Text.quote registry.entity ++ ", " ++ shown ++ ")"

end Registry

end QueryGate
