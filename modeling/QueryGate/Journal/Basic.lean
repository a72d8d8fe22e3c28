import QueryGate.Journal.Handler
import QueryGate.Json.Writer
import QueryGate.Settings
/-!
The journal of a service. Every part of the service that has something to say gets a logger of its own
name, and every logger writes into files below one directory: one for its part, one for errors, and in
debug mode one for everything. Changing the configuration takes the files away from all loggers handed
out so far; a logger gets files again when it is asked for the next time. If one of its files cannot be
opened the logger is not handed out, and what was made for it until then stays.
-/

namespace QueryGate

namespace Journal

/-- A logger: the least level it lets through, the files it writes into, and whether its lines go to
the console of the program too. -/
structure Logger where
  level : Level
  handlers : List OpenHandler
  propagates : Bool
deriving DecidableEq

inductive JournalError where
  | unknownUser
  | disk (problem : DiskError)
  | context (fault : Json.WriteFault)
deriving DecidableEq, Repr

def loggerPreamble : String := "docquery."

/-- The key of a logger: its name, behind the component if there is one. -/
def loggerKey (name : String) (component : Option String) : String :=
  match component.filter fun text => !text.isEmpty with
  | some component => component ++ "." ++ name
  | none => name

end Journal

/-- What a journal knows of the machine that it runs on: the work directory, the home directories of users, and the
characters that stand in for halves of surrogate pairs, which no file can hold. No name on the way to the work
directory leads up again. -/
structure Journal.Machine where
  work : Journal.Path
  straight : ".." ∉ work
  homes : Homes
  isHalf : Char → Bool

/-- The state of a journal: the machine, the environment, the directory that counts if no other is given, the
configuration, the loggers handed out since it was changed, all loggers ever made, and the disk. -/
structure Journal where
  machine : Journal.Machine
  environment : Environment
  fallback : Journal.Route
  directory : Journal.Route
  debugMode : Bool
  current : List String
  loggers : List (String × Journal.Logger)
  disk : Journal.Disk

namespace Journal

/-! ## Configuration -/

def expand? (journal : Journal) (route : Route) : Option Route :=
  match route.names with
  | [] => some route
  | first :: names =>
    if route.isAbsolute || !first.startsWith "~" then some route
    else
      let home := expandHome journal.environment journal.machine.homes first
      if home.startsWith "~" then none
      else some ((Route.ofText home).append ⟨"", names⟩)

def environmentDirectory? (journal : Journal) : Option Route :=
  match journal.environment.nonempty? "DOCQUERY_LOG_DIR" with
  | some text => journal.expand? (Route.ofText text)
  | none => some journal.fallback

def directoryFor? (journal : Journal) (directory : Option String) : Option Route :=
  match directory.filter fun text => !text.isEmpty with
  | some text => journal.expand? (Route.ofText text)
  | none => journal.environmentDirectory?

def stripLoggers (keys : List String) (loggers : List (String × Logger)) : List (String × Logger) :=
  loggers.map fun entry =>
    if keys.contains entry.1 then (entry.1, { entry.2 with handlers := [] }) else entry

/-- Changes the configuration. What is not given comes from the environment. -/
def configure (journal : Journal) (directory : Option String) (debug : Option Bool) :
    Except JournalError Journal :=
  match journal.directoryFor? directory with
  | none => .error .unknownUser
  | some route => .ok { journal with
    directory := route
    debugMode := debug.getD journal.environment.debug
    loggers := stripLoggers journal.current journal.loggers
    current := [] }

def setEnvironment (journal : Journal) (changes : List (String × Option String)) : Journal :=
  { journal with
    environment := changes.foldl (fun environment change =>
      let others := environment.filter fun entry => entry.1 != change.1
      match change.2 with
      | some text => (change.1, text) :: others
      | none => others) journal.environment }

/-! ## Loggers -/

def level (journal : Journal) : Level := if journal.debugMode then .debug else .info

/-- The place that parts of a path lead to from the directory of the configuration. -/
def placeOf (journal : Journal) (parts : List String) : Path :=
  (parts.foldl Route.join journal.directory).place journal.machine.work

/-- The files of a logger: that of its part, in debug mode the common one, and that of errors. -/
def handlersFor (journal : Journal) (name : String) (component : Option String) : List Handler :=
  let part := journal.placeOf [component.getD "", Text.lower name ++ ".log"]
  let layout := if journal.debugMode then Layout.located else .plain
  let debug : List Handler :=
    if journal.debugMode then [⟨journal.placeOf ["debug.log"], .debug, .traced, 52428800, 3⟩] else []
  ⟨part, .unset, layout, 10485760, 5⟩ :: debug ++
    [⟨journal.placeOf ["error.log"], .error, .isolated, 10485760, 5⟩]

def logger? (journal : Journal) (key : String) : Option Logger :=
  (journal.loggers.find? fun entry => entry.1 == key).map Prod.snd

def setLogger (loggers : List (String × Logger)) (key : String) (logger : Logger) :
    List (String × Logger) :=
  (key, logger) :: loggers.filter fun entry => entry.1 != key

def mapHandlers (loggers : List (String × Logger)) (key : String)
    (change : List OpenHandler → List OpenHandler) : List (String × Logger) :=
  loggers.map fun entry =>
    if entry.1 == key then (key, { entry.2 with handlers := change entry.2.handlers }) else entry

/-- Opens the files of handlers in order and gives each handler to the logger of a key as soon as its
file is open. -/
def attach (journal : Journal) (key : String) : List Handler → Journal × Except JournalError Unit
  | [] => (journal, .ok ())
  | handler :: handlers =>
    match journal.disk.openFile handler.file with
    | .error problem => (journal, .error (.disk problem))
    | .ok (disk, id) =>
      let loggers := mapHandlers journal.loggers key fun others => others ++ [⟨handler, some id⟩]
      attach { journal with disk := disk, loggers := loggers } key handlers

def makeLogger (journal : Journal) (key : String) : Journal :=
  { journal with loggers := setLogger journal.loggers key ⟨journal.level, [], false⟩ }

def makeDirectory (journal : Journal) (component : Option String) :
    Journal × Except JournalError Unit :=
  let route := journal.directory.join (component.getD "")
  let (disk, outcome) := journal.disk.makeDirectory (route.start journal.machine.work) route.names
  ({ journal with disk := disk }, outcome.mapError JournalError.disk)

/-- Makes sure that a logger is current: it keeps its files if it is already, and gets files by the
configuration otherwise. -/
def request (journal : Journal) (name : String) (component : Option String) :
    Journal × Except JournalError Unit :=
  let key := loggerKey name component
  if journal.current.contains key then (journal, .ok ())
  else match (journal.makeLogger key).makeDirectory component with
    | (journal, .error problem) => (journal, .error problem)
    | (journal, .ok ()) =>
      match journal.attach key (journal.handlersFor name component) with
      | (journal, .error problem) => (journal, .error problem)
      | (journal, .ok ()) => ({ journal with current := journal.current ++ [key] }, .ok ())

def currentKeys (journal : Journal) : List String :=
  journal.current.mergeSort fun s t => decide (s ≤ t)

def handlerCount (journal : Journal) (key : String) : Nat :=
  (journal.logger? key).elim 0 fun logger => logger.handlers.length

/-! ## Writing -/

/-- Hands a line to handlers, one after another, each if the line reaches its level. -/
def deliver (isHalf : Char → Bool) (name : String) (stamp : Stamp) (line : Line) :
    List OpenHandler → Disk → List OpenHandler × Disk
  | [], disk => ([], disk)
  | handler :: handlers, disk =>
    let output : Output :=
      if line.level.reaches handler.threshold then
        Output.emit isHalf (handler.layout.write name stamp line) ⟨handler, disk⟩
      else ⟨handler, disk⟩
    let (others, disk) := deliver isHalf name stamp line handlers output.disk
    (output.handler :: others, disk)

def write (journal : Journal) (key : String) (stamp : Stamp) (line : Line) : Journal :=
  match journal.logger? key with
  | none => journal
  | some logger =>
    if line.level.reaches logger.level then
      let (handlers, disk) :=
        deliver journal.machine.isHalf (loggerPreamble ++ key) stamp line logger.handlers journal.disk
      { journal with
        loggers := mapHandlers journal.loggers key fun _ => handlers
        disk := disk }
    else journal

def writeAll (journal : Journal) (key : String) (stamps : Nat → Stamp) : List Line → Journal
  | [] => journal
  | line :: lines => (journal.write key (stamps 0) line).writeAll key (fun count => stamps (count + 1)) lines

def withContext (message : String) (context : Value) : Except JournalError String :=
  if context.isVacant then .ok message
  else match Json.write context with
    | .ok text => .ok (message ++ " | Context: " ++ text)
    | .error fault => .error (.context fault)

/-- Writes a message with its context through a logger that is asked for first. The outcome of writing
does not undo that the logger is current now. -/
def log (journal : Journal) (name : String) (component : Option String) (level : Level) (stamp : Stamp)
    (message : String) (context : Value) : Journal × Except JournalError Unit :=
  match journal.request name component with
  | (journal, .error problem) => (journal, .error problem)
  | (journal, .ok ()) =>
    match withContext message context with
    | .error problem => (journal, .error problem)
    | .ok message => (journal.write (loggerKey name component) stamp ⟨level, message⟩, .ok ())

def blank (machine : Machine) (directories : List Path) (directory : Route) (debug : Bool) : Journal where
  machine := machine
  environment := []
  fallback := directory
  directory := directory
  debugMode := debug
  current := []
  loggers := []
  disk := .ofDirectories directories

end Journal

end QueryGate
