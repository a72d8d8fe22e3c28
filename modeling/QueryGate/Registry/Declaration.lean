import QueryGate.Registry.Builder
/-!
Registries declared as data. A declaration maps public names to options, either as a whole or under the
key `properties` beside the name of the identity field. The options of a property are its canonical
name, its type and whether callers may filter on it; options that are not given take their defaults.
-/

namespace QueryGate

def optionNames : List String := ["name", "type", "filterable"]

def isOptionName : Atom → Bool
  | .text name => optionNames.contains name
  | _ => false

def checkOptions (entity name : String) (options : Entries) : Except RegistryError Unit :=
  let unknown := (Entries.keys options).filter fun key => !isOptionName key
  if unknown.isEmpty then .ok ()
  else match sortAtoms? unknown with
    | some sorted => .error (.unknownOptions entity name sorted)
    | none => .error .mixedOptions

def exposureOfOptions (name : String) (options : Entries) : Exposure where
  publicName := .text name
  name := (Entries.field? options "name").getD .null
  type := (Entries.field? options "type").getD .null
  filterable := .bool !((Entries.field? options "filterable").getD (.bool true)).isVacant

/-- What one entry of a declaration says. Options that count as not given are all defaults. Whatever is said
of a property, its name is written first. -/
def exposureOfEntry (entity : String) (key : Atom) (options : Value) :
    Except RegistryError Exposure :=
  match key.plain? with
  | none => .error .overlongName
  | some name =>
    if options.isVacant then .ok (exposureOfOptions name [])
    else match options with
      | .map options => do
        checkOptions entity name options
        .ok (exposureOfOptions name options)
      | options => .error (.options entity name options.typeName)

def exposeEntries (builder : Builder) : List (Atom × Value) → Except RegistryError Builder
  | [] => .ok builder
  | (key, options) :: entries => do
    let exposure ← exposureOfEntry builder.entity key options
    let builder ← builder.expose exposure
    exposeEntries builder entries

def splitDeclaration (entity : String) (declaration : Entries) :
    Except RegistryError (Entries × Value) :=
  match Entries.field? declaration "properties" with
  | none => .ok (declaration, .text defaultIdentityField)
  | some properties =>
    let identity := (Entries.field? declaration "identity_field").getD .null
    let identity := if identity.isVacant then .text defaultIdentityField else identity
    if properties.isVacant then .ok ([], identity)
    else match properties with
      | .map entries => .ok (entries, identity)
      | _ => .error (.properties entity)

def Registry.ofDeclaration (entity : String) (declaration : Value) :
    Except RegistryError Registry :=
  match declaration with
  | .map entries => do
    let (properties, identity) ← splitDeclaration entity entries
    let builder ← exposeEntries (Builder.start entity identity) properties
    builder.build
  | _ => .error (.declaration entity)

end QueryGate
