import QueryGate.Query.PageQuery
import QueryGate.Text.LetterCase
/-!
Settings taken from the environment. Every setting has a default that counts where its variable is not
set; numbers must be whole and at least one, and paths may start at a home directory.
-/

namespace QueryGate

open QueryGate.Query

/-- The variables of an environment; of two with one name the first counts. -/
abbrev Environment := List (String × String)

def Environment.get? (environment : Environment) (name : String) : Option String :=
  (environment.find? fun entry => entry.1 == name).map Prod.snd

def Environment.nonempty? (environment : Environment) (name : String) : Option String :=
  (environment.get? name).filter fun text => !text.isEmpty

def isSwitchedOn (text : String) : Bool := ["1", "true", "yes"].contains (Text.lower text)

def Environment.debug (environment : Environment) : Bool :=
  isSwitchedOn ((environment.get? "DOCQUERY_DEBUG").getD "")

/-- The home directories of users by their names; that of the user who runs the service has no name. -/
abbrev Homes := String → Option String

def Environment.homeOf? (environment : Environment) (homes : Homes) (name : String) : Option String :=
  if name.isEmpty then (environment.get? "HOME").or (homes "") else homes name

/-- Replaces a tilde at the start of a path, with the name of a user behind it, by the home directory of that
user. If there is none the path stays as it is. -/
def expandHome (environment : Environment) (homes : Homes) (path : String) : String :=
  match path.toList with
  | '~' :: rest =>
    let name := rest.takeWhile (· != '/')
    match environment.homeOf? homes (String.ofList name) with
    | none => path
    | some home =>
      let base := (home.toList.reverse.dropWhile (· == '/')).reverse
      let expanded := base ++ rest.drop name.length
      if expanded.isEmpty then "/" else String.ofList expanded
  | _ => path

structure Settings where
  identityField : String
  maxFilterDepth : Int
  defaultPageLimit : Int
  registryPath : Option String
  logDir : Option String
  debug : Bool

def Settings.defaults : Settings where
  identityField := defaultIdentityField
  maxFilterDepth := Filter.defaultDepthLimit
  defaultPageLimit := Query.defaultPageLimit
  registryPath := none
  logDir := none
  debug := false

def numberSetting (environment : Environment) (name : String) (default : Int) :
    Except ParameterError Int :=
  match environment.get? name with
  | none => .ok default
  | some text =>
    if Text.isBlankText text then .ok default
    else match Number.readInt? text.toList with
      | none => .error (.notInteger name (.text text))
      | some number => if number < 1 then .error (.tooSmall name number) else .ok number

def Settings.ofEnvironment (environment : Environment) (homes : Homes) :
    Except ParameterError Settings := do
  let depth ←
    numberSetting environment "DOCQUERY_MAX_FILTER_DEPTH" Settings.defaults.maxFilterDepth
  let limit ←
    numberSetting environment "DOCQUERY_DEFAULT_PAGE_LIMIT" Settings.defaults.defaultPageLimit
  .ok {
    identityField :=
      (environment.nonempty? "DOCQUERY_IDENTITY_FIELD").getD Settings.defaults.identityField
    maxFilterDepth := depth
    defaultPageLimit := limit
    registryPath := (environment.nonempty? "DOCQUERY_REGISTRY_PATH").map (expandHome environment homes)
    logDir := (environment.nonempty? "DOCQUERY_LOG_DIR").map (expandHome environment homes)
    debug := environment.debug }

def pathValue : Option String → Value
  | some path => .text path
  | none => .null

def Settings.toValue (settings : Settings) : Value :=
  .map [
    (.text "identity_field", .text settings.identityField),
    (.text "max_filter_depth", .int settings.maxFilterDepth),
    (.text "default_page_limit", .int settings.defaultPageLimit),
    (.text "registry_path", pathValue settings.registryPath),
    (.text "log_dir", pathValue settings.logDir),
    (.text "debug", .bool settings.debug)]

end QueryGate
