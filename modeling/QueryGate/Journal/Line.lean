/-!
Lines of the journal: a message and how much it matters. Levels are ordered, and a journal keeps the
lines from some level on. A line is stamped with the time and the place in the program at which it is said.
-/

namespace QueryGate.Journal

inductive Level where
  | unset
  | debug
  | info
  | warning
  | error
  | critical
deriving DecidableEq, Repr

namespace Level

def all : List Level := [unset, debug, info, warning, error, critical]

def name : Level → String
  | unset => "NOTSET"
  | debug => "DEBUG"
  | info => "INFO"
  | warning => "WARNING"
  | error => "ERROR"
  | critical => "CRITICAL"

def rank : Level → Nat
  | unset => 0
  | debug => 10
  | info => 20
  | warning => 30
  | error => 40
  | critical => 50

def otherNames : List (String × Level) := [("WARN", warning), ("FATAL", critical)]

def ofName? (name : String) : Option Level :=
  (all.find? fun level => level.name == name).or
    ((otherNames.find? fun entry => entry.1 == name).map Prod.snd)

def reaches (level threshold : Level) : Bool := threshold.rank ≤ level.rank

end Level

structure Line where
  level : Level
  message : String

structure Stamp where
  time : String
  file : String
  lineNumber : Nat
  function : String

end QueryGate.Journal
