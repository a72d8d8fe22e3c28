import QueryGate.Filter.Operator
import QueryGate.Filter.Trail
import QueryGate.Value.DateInput
/-!
Why a filter is rejected. A key may name no property that callers may filter on, or an operator that is
not allowed; everything else is a flaw in the shape of the filter at a place inside it. The messages are
meant to be shown to the caller as they are.
-/

namespace QueryGate.Filter

inductive Need where
  | scalar | ordered | array | boolean | count | kindCode | text | flags | comparison | clause
deriving DecidableEq, Repr

def Need.description : Need → String
  | .scalar => "a string, number, boolean or null"
  | .ordered => "a string, number or object"
  | .array => "an array"
  | .boolean => "a boolean"
  | .count => "a non-negative number"
  | .kindCode => "a string or number"
  | .text => "a string"
  | .flags => "a string of regex flags among i, m, x, s"
  | .comparison => "an operator object"
  | .clause => "an object of conditions"

inductive Form where
  | plain | array | comparison
deriving DecidableEq, Repr

def Form.description : Form → String
  | .plain => "plain value"
  | .array => "array"
  | .comparison => "operator object"

inductive Flaw where
  | noObject (typeName : String)
  | tooDeep (limit : Value)
  | repeated (name : String) (canonical : Atom)
  | date (name : String) (cause : DateError)
  | noClause (kindName : String)
  | mixed (operators : List String)
  | noCombinator (key : String)
  | clauseArray (key : String) (kindName : String)
  | fieldName (name : String)
  | arrayItem (kindName : String)
  | fieldValue (kindName : String)
  | manyForms (forms : List (Form × String))
  | noOperator (key : String)
  | noComparison (key : String)
  | flagsAlone
  | incompatible (keys : List String)
  | operand (key : String) (need : Need) (kindName : String)

/-- What is wrong, in words, unless a number in them has too many digits. -/
def Flaw.detail? : Flaw → Option String
  | .noObject typeName => some ("Filter must be an object, got " ++ typeName)
  | .tooDeep limit =>
    limit.plain?.map fun shown => "Filter nesting exceeds maximum depth of " ++ shown
  | .repeated name canonical =>
    canonical.plain?.map fun shown => "Property '" ++ name ++ "' repeats condition on '" ++ shown ++ "'"
  | .date name cause => some ("Invalid date for property '" ++ name ++ "': " ++ cause.message)
  | .noClause kindName => some ("Expected an object of conditions, got " ++ kindName)
  | .mixed operators =>
    some ("Cannot mix field conditions with " ++ ", ".intercalate operators ++
      " in one clause; wrap them in $and")
  | .noCombinator key => some ("Operator '" ++ key ++ "' is not allowed at clause level")
  | .clauseArray key kindName => some (key ++ " requires an array of clauses, got " ++ kindName)
  | .fieldName name => some ("Invalid field name '" ++ name ++ "'")
  | .arrayItem kindName =>
    some ("Array items must be strings, numbers, booleans or null, got " ++ kindName)
  | .fieldValue kindName => some ("Unsupported value of type " ++ kindName)
  | .manyForms forms =>
    some ("All conditions of one clause must have the same form (" ++
      ", ".intercalate (forms.map fun form => "'" ++ form.2 ++ "' is a " ++ form.1.description) ++
      "); wrap them in $and")
  | .noOperator key =>
    some ("Expected an operator, got field '" ++ key ++ "'; match sub-documents with $elemMatch")
  | .noComparison key => some ("Operator '" ++ key ++ "' is not allowed on a field")
  | .flagsAlone => some "$options requires $regex"
  | .incompatible keys => some ("Operators " ++ ", ".intercalate keys ++ " cannot be combined")
  | .operand key need kindName =>
    some (key ++ " requires " ++ need.description ++ ", got " ++ kindName)

/-- Why a filter or a sort order is rejected. A key that is no text cannot even be told apart from an
operator, a sort order that is no text cannot be read at all, no depth can be measured against a limit that
is no number, and a property cannot be given a name that is a number with too many digits. -/
inductive Rejection where
  | unknownProperty (name : String)
  | disallowedOperator (key : String)
  | flaw (flaw : Flaw) (trail : Trail)
  | foreignKey (key : Atom)
  | foreignSort (sort : Value)
  | foreignLimit (limit : Value)
  | overlongName (name : Atom)

def unknownReason (name : String) : String := "Property '" ++ name ++ "' is not exposed for filtering."

def disallowedReason (key : String) : String := "Key '" ++ key ++ "' is not allowed for filtering."

def flawReason (detail place : String) : String := detail ++ " (at " ++ place ++ ")"

/-- Why a filter is rejected, in words. What is no text or no number where it should be is refused
without any, and so is what cannot be told without a number with too many digits. -/
def Rejection.reason? : Rejection → Option String
  | .unknownProperty name => some (unknownReason name)
  | .disallowedOperator key => some (disallowedReason key)
  | .flaw problem trail => do
    let detail ← problem.detail?
    let shown ← trail.shown?
    let place ← shown.plain?
    some (flawReason detail place)
  | .foreignKey _ | .foreignSort _ | .foreignLimit _ | .overlongName _ => none

def rejectionPreamble : String := "Filter validation failed: "

def Rejection.message? (rejection : Rejection) : Option String :=
  rejection.reason?.map fun reason => rejectionPreamble ++ reason

def reject {α : Type} (flaw : Flaw) (trail : Trail) : Except Rejection α := .error (.flaw flaw trail)

end QueryGate.Filter
