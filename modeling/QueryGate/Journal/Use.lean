import QueryGate.Journal.Basic
/-!
A journal in use. Variables and the configuration change, loggers are asked for, and lines are written through
loggers that were handed out, in any order. A step that is refused may leave behind what was made until then.
-/

namespace QueryGate.Journal

inductive Step where
  | setEnvironment (changes : List (String × Option String))
  | configure (directory : Option String) (debug : Option Bool)
  | request (name : String) (component : Option String)
  | write (key : String) (stamp : Stamp) (line : Line)

def step (journal : Journal) : Step → Journal × Except JournalError Unit
  | .setEnvironment changes => (journal.setEnvironment changes, .ok ())
  | .configure directory debug => match journal.configure directory debug with
    | .ok later => (later, .ok ())
    | .error problem => (journal, .error problem)
  | .request name component => journal.request name component
  | .write key stamp line => (journal.write key stamp line, .ok ())

def run (journal : Journal) (steps : List Step) : Journal :=
  steps.foldl (fun journal step => (journal.step step).1) journal

end QueryGate.Journal
