import QueryGate.Filter.Rejection
import QueryGate.Registry.Basic
import QueryGate.Text.Blank
/-!
Sort orders. A caller writes the properties to sort by one after another with semicolons between them,
a minus in front of those that go down. What comes out maps canonical fields to directions in the order
of importance; a field that is named again keeps its place and takes the last direction.
-/

namespace QueryGate.Query

open QueryGate.Text QueryGate.Filter

inductive Direction where
  | ascending
  | descending
deriving DecidableEq, Repr

def Direction.name : Direction → String
  | .ascending => "asc"
  | .descending => "desc"

abbrev SortOrder := List (Atom × Direction)

def SortOrder.toValue (order : SortOrder) : Value :=
  .map (order.map fun entry => (entry.1, .text entry.2.name))

def splitChars (separator : Char) : List Char → List (List Char)
  | [] => [[]]
  | c :: rest =>
    if c == separator then [] :: splitChars separator rest
    else match splitChars separator rest with
      | [] => [[c]]
      | part :: parts => (c :: part) :: parts

structure SortTerm where
  name : String
  direction : Direction

/-- Reads one segment of a sort order; a blank segment says nothing. -/
def readTerm? (segment : List Char) : Option SortTerm :=
  match stripChars segment with
  | [] => none
  | '-' :: name => some ⟨String.ofList (stripChars name), .descending⟩
  | '+' :: name => some ⟨String.ofList (stripChars name), .ascending⟩
  | name => some ⟨String.ofList name, .ascending⟩

def sortTerms (sort : String) : List SortTerm := (splitChars ';' sort.toList).filterMap readTerm?

/-- The canonical field of a term. The identity field may be sorted by even if no property has its
name. -/
def termField (registry : Registry) (term : SortTerm) : Except Rejection Atom :=
  if registry.isIdentity term.name && !registry.contains term.name then .ok (.text term.name)
  else match registry.resolveFilterable term.name with
    | some property => .ok property.canonicalName
    | none => .error (.unknownProperty term.name)

def addTerms (registry : Registry) (order : SortOrder) : List SortTerm → Except Rejection SortOrder
  | [] => .ok order
  | term :: terms => do
    let field ← termField registry term
    addTerms registry (Entries.set field term.direction order) terms

def parseSortText (registry : Registry) (sort : String) : Except Rejection (Option SortOrder) := do
  let order ← addTerms registry [] (sortTerms sort)
  .ok (if order.isEmpty then none else some order)

/-- The sort order of a value; one that counts as not given describes none. -/
def parseSort (registry : Registry) (sort : Value) : Except Rejection (Option SortOrder) :=
  if sort.isVacant then .ok none
  else match sort with
    | .text chars => parseSortText registry chars
    | sort => .error (.foreignSort sort)

end QueryGate.Query
