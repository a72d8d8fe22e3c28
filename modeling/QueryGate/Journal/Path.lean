/-!
Paths. A place is told by the names that lead to it from the root. A path as it is written starts at the root or
at the work directory, and its names may lead up again; it may also start at the home directory of a user.
-/

namespace QueryGate.Journal

abbrev Path := List String

def above (place : Path) : Path := place.dropLast

/-- Follows names from a place; two dots go up. -/
def follow (place : Path) : List String → Path
  | [] => place
  | name :: names => follow (if name == ".." then above place else place ++ [name]) names

/-- A path as it is written: the slashes it starts with, if it starts at the root, and its names. -/
structure Route where
  anchor : String
  names : List String
deriving DecidableEq

namespace Route

/-- The slashes at the start of a path. Two of them are kept apart, more count as one. -/
def anchorOf (text : String) : String :=
  match (text.toList.takeWhile (· == '/')).length with
  | 0 => ""
  | 2 => "//"
  | _ => "/"

def splitPath (text : String) : List String :=
  ((text.toList.splitOn '/').map String.ofList).filter fun name => !name.isEmpty && name != "."

def ofText (text : String) : Route := ⟨anchorOf text, splitPath text⟩

def isAbsolute (route : Route) : Bool := !route.anchor.isEmpty

def text (route : Route) : String :=
  if route.anchor.isEmpty && route.names.isEmpty then "."
  else route.anchor ++ "/".intercalate route.names

/-- Goes on by another path; one from the root leads there from everywhere. -/
def append (route other : Route) : Route :=
  if other.isAbsolute then other else { route with names := route.names ++ other.names }

def join (route : Route) (text : String) : Route := route.append (ofText text)

def start (work : Path) (route : Route) : Path := if route.isAbsolute then [] else work

/-- Where a path leads to if every name on the way is one of a directory. -/
def place (work : Path) (route : Route) : Path := follow (route.start work) route.names

end Route

end QueryGate.Journal
