import QueryGate.Journal.Line
/-!
How lines are laid out in the files of a journal.
-/

namespace QueryGate.Journal

inductive Layout where
  | plain
  | located
  | traced
  | isolated
deriving DecidableEq, Repr

def Stamp.position (stamp : Stamp) : String :=
  "[" ++ stamp.file ++ ":" ++ toString stamp.lineNumber ++ "]"

/-- The text of a line. The isolated layout puts the message on lines of its own. -/
def Layout.write (layout : Layout) (logger : String) (stamp : Stamp) (line : Line) : String :=
  let start := stamp.time ++ " - " ++ logger ++ " - " ++ line.level.name ++ " - "
  match layout with
  | .plain => start ++ line.message ++ "\n"
  | .located => start ++ stamp.position ++ " - " ++ line.message ++ "\n"
  | .traced => start ++ stamp.position ++ " - " ++ stamp.function ++ "() - " ++ line.message ++ "\n"
  | .isolated => start ++ stamp.position ++ "\n" ++ line.message ++ "\n\n"

end QueryGate.Journal
