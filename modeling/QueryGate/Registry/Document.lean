import QueryGate.Registry.Declaration
import QueryGate.Registry.FileContent
import QueryGate.Yaml.Fault
import QueryGate.Text.Quoted
/-!
Registries loaded from a file. The file holds one YAML document, a mapping whose key `entities` maps the
names of entities to declarations. Entities come out in the order of the document; two keys with one
text name one entity, and the later declaration counts. How YAML is read is left to a reader.
-/

namespace QueryGate

/-- Reads the document in the bytes of a file. -/
abbrev DocumentReader := List UInt8 → Except Yaml.Fault Value

/-- Sets the registry of an entity; an entity that was declared before keeps its place. -/
def setRegistry (name : String) (registry : Registry) :
    List (String × Registry) → List (String × Registry)
  | [] => [(name, registry)]
  | entry :: rest =>
    if entry.1 == name then (name, registry) :: rest else entry :: setRegistry name registry rest

/-- Adds the registries of declared entities to those known. A declaration that counts as not given
exposes nothing. -/
def addEntities (known : List (String × Registry)) :
    List (Atom × Value) → Except RegistryError (List (String × Registry))
  | [] => .ok known
  | (key, declaration) :: entities =>
    match key.plain? with
    | none => .error .overlongName
    | some name => do
      let declaration := if declaration.isVacant then .empty else declaration
      let registry ← Registry.ofDeclaration name declaration
      addEntities (setRegistry name registry known) entities

def registriesOfDocument (path : String) (document : Value) :
    Except RegistryError (List (String × Registry)) :=
  if document.isVacant then .error (.noEntities path)
  else match document with
    | .map entries =>
      match Entries.field? entries "entities" with
      | some (.map entities) => addEntities [] entities
      | _ => .error (.noEntities path)
    | _ => .error (.noMapping path)

def RegistryError.ofFault (path : String) : Yaml.Fault → RegistryError
  | .malformed => .yaml path
  | .undecodable => .undecodable
  | .tooDeep => .tooDeep
  | .overlong digits => .overlongNumber digits
  | .noCharacter => .noCharacter
  | .hugeCode => .hugeCode

def registriesOfBytes (reader : DocumentReader) (path : String) (data : List UInt8) :
    Except RegistryError (List (String × Registry)) :=
  match reader data with
  | .error fault => .error (RegistryError.ofFault path fault)
  | .ok document => registriesOfDocument path document

def unreadable (path reason : String) : RegistryError :=
  .unreadable path (reason ++ ": " ++ Text.quote path)

def loadRegistries (reader : DocumentReader) (path : String) (content : FileContent) :
    Except RegistryError (List (String × Registry)) :=
  match content with
  | .missing => .error (unreadable path "[Errno 2] No such file or directory")
  | .notDirectory => .error (unreadable path "[Errno 20] Not a directory")
  | .directory => .error (unreadable path "[Errno 21] Is a directory")
  | .longName => .error (unreadable path "[Errno 36] File name too long")
  | .nullInPath => .error .nullInPath
  | .bytes data => registriesOfBytes reader path data

end QueryGate
