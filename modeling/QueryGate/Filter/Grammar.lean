import QueryGate.Filter.Rejection
/-!
The grammar of canonical filters. A clause is either a map of combinators, each over a list of clauses,
or a map of fields that all carry the same form of condition: plain values, arrays of plain values, or
comparisons. A comparison is a map of operators that may be combined, each with an operand of its kind.
The check goes through a filter from left to right and stops at the first flaw.
-/

namespace QueryGate.Filter

/-- Leaves of a filter: everything without parts, except bytes and numbers that are not finite. -/
def isScalar : Value → Bool
  | .atom (.float number) => number.isFinite
  | .atom (.bytes _) => false
  | .atom _ => true
  | _ => false

def isNumber : Value → Bool
  | .atom (.int _) => true
  | .atom (.float number) => number.isFinite
  | _ => false

def isText : Value → Bool
  | .text _ => true
  | _ => false

def isMap : Value → Bool
  | .map _ => true
  | _ => false

def isList : Value → Bool
  | .list _ => true
  | _ => false

def isBool : Value → Bool
  | .bool _ => true
  | _ => false

def isDate : Value → Bool
  | .date _ => true
  | _ => false

def isBelowZero : Value → Bool
  | .atom (.int number) => number < 0
  | .atom (.float number) => number.isBelowZero
  | _ => false

def patternFlagLetters : List Char := ['i', 'm', 'x', 's']

def isFlags : Value → Bool
  | .text chars => chars.toList.all patternFlagLetters.contains
  | _ => false

/-- Whether an operand is of the kind that is wanted; what it holds is not looked at. -/
def Need.fits (need : Need) (operand : Value) : Bool :=
  match need with
  | .scalar => isScalar operand
  | .ordered => isText operand || isMap operand || isDate operand || isNumber operand
  | .array => isList operand
  | .boolean => isBool operand
  | .count => isNumber operand && !isBelowZero operand
  | .kindCode => isText operand || isNumber operand
  | .text => isText operand
  | .flags => isFlags operand
  | .comparison | .clause => isMap operand

/-- What each operator wants. Combinators stand at clause level only and want an array there. -/
def Operator.need : Operator → Need
  | .eq | .ne => .scalar
  | .gt | .gte | .lt | .lte => .ordered
  | .within | .notWithin | .all => .array
  | .present => .boolean
  | .size => .count
  | .kind => .kindCode
  | .pattern => .text
  | .patternFlags => .flags
  | .negated => .comparison
  | .elemMatch => .clause
  | .both | .either | .neither => .array

structure Shape where
  operators : List Operator
  required : List Operator := []

def shapes : List Shape := [
  ⟨[.pattern, .patternFlags], [.pattern]⟩,
  ⟨[.eq, .ne], []⟩,
  ⟨[.gt, .gte, .lt, .lte], []⟩,
  ⟨[.within, .notWithin, .all], []⟩,
  ⟨[.present], []⟩,
  ⟨[.size], []⟩,
  ⟨[.kind], []⟩,
  ⟨[.present, .ne, .eq, .gt, .gte, .lt, .lte, .within, .notWithin, .negated], []⟩,
  ⟨[.elemMatch], []⟩]

def Shape.admits (shape : Shape) (operators : List Operator) : Bool :=
  operators.all shape.operators.contains && shape.required.all operators.contains

def combinable (operators : List Operator) : Bool := shapes.any fun shape => shape.admits operators

/-- Names of fields start with an ASCII letter or an underscore. -/
def isFieldName (name : String) : Bool :=
  match name.toList with
  | [] => false
  | c :: _ => c.isAlpha || c == '_'

def textKeys : List (Atom × Value) → Except Rejection (List String)
  | [] => .ok []
  | (.text key, _) :: rest => (textKeys rest).map (key :: ·)
  | (key, _) :: _ => .error (.foreignKey key)

def checkScalars (trail : Trail) (index : Nat) : List Value → Except Rejection Unit
  | [] => .ok ()
  | item :: items =>
    if isScalar item then checkScalars trail (index + 1) items
    else reject (.arrayItem item.kindName) (.index index :: trail)

def comparisonOperators (trail : Trail) : List (Atom × Value) → Except Rejection (List Operator)
  | [] => .ok []
  | (.text key, _) :: rest =>
    if !isOperatorKey key then reject (.noOperator key) (.key (.text key) :: trail)
    else match (Operator.ofKey? key).filter Operator.isComparison with
      | some operator => (comparisonOperators trail rest).map (operator :: ·)
      | none => reject (.noComparison key) (.key (.text key) :: trail)
  | (key, _) :: _ => .error (.foreignKey key)

def sortTexts (texts : List String) : List String := texts.mergeSort fun s t => decide (s ≤ t)

def checkCombination (trail : Trail) (operators : List Operator) : Except Rejection Unit :=
  if operators.isEmpty || combinable operators then .ok ()
  else if operators.contains .patternFlags && !operators.contains .pattern then
    reject .flagsAlone trail
  else reject (.incompatible (sortTexts (operators.map Operator.key))) trail

def noteForm (forms : List (Form × String)) (form : Form) (name : String) : List (Form × String) :=
  if forms.any fun noted => noted.1 == form then forms else forms ++ [(form, name)]

def checkForms (trail : Trail) (forms : List (Form × String)) : Except Rejection Unit :=
  if forms.length ≤ 1 then .ok () else reject (.manyForms forms) trail

mutual

def checkClause (trail : Trail) : Value → Except Rejection Unit
  | .map entries => do
    let keys ← textKeys entries
    let operators := keys.filter isOperatorKey
    let fields := keys.filter fun key => !isOperatorKey key
    if !operators.isEmpty && !fields.isEmpty then reject (.mixed operators) trail
    else if fields.isEmpty then checkCombinators trail entries
    else
      let forms ← checkFields trail [] entries
      checkForms trail forms
  | value => reject (.noClause value.kindName) trail

def checkCombinators (trail : Trail) : List (Atom × Value) → Except Rejection Unit
  | [] => .ok ()
  | (key, value) :: rest => do
    let here := .key key :: trail
    if !((Operator.ofKey? key.chars).any Operator.isCombinator) then
      reject (.noCombinator key.chars) here
    else match value with
      | .list clauses => checkClauses here 0 clauses
      | value => reject (.clauseArray key.chars value.kindName) here
    checkCombinators trail rest

def checkClauses (trail : Trail) (index : Nat) : List Value → Except Rejection Unit
  | [] => .ok ()
  | clause :: rest => do
    checkClause (.index index :: trail) clause
    checkClauses trail (index + 1) rest

/-- Checks the fields of a clause and collects the forms of their conditions, each with the first field
of that form. -/
def checkFields (trail : Trail) (forms : List (Form × String)) :
    List (Atom × Value) → Except Rejection (List (Form × String))
  | [] => .ok forms
  | (key, value) :: rest => do
    let name := key.chars
    let here := .key key :: trail
    if !isFieldName name then reject (.fieldName name) here
    else match value with
      | .atom leaf =>
        if isScalar (.atom leaf) then checkFields trail (noteForm forms .plain name) rest
        else reject (.fieldValue leaf.kindName) here
      | .list items => do
        checkScalars here 0 items
        checkFields trail (noteForm forms .array name) rest
      | value => do
        checkComparison here value
        checkFields trail (noteForm forms .comparison name) rest

def checkComparison (trail : Trail) : Value → Except Rejection Unit
  | .map entries => do
    let operators ← comparisonOperators trail entries
    checkCombination trail operators
    checkOperands trail entries
  | value => reject (.fieldValue value.kindName) trail

def checkOperands (trail : Trail) : List (Atom × Value) → Except Rejection Unit
  | [] => .ok ()
  | (key, operand) :: rest => do
    let here := .key key :: trail
    match Operator.ofKey? key.chars with
    | none => reject (.noComparison key.chars) here
    | some operator =>
      if !operator.need.fits operand then
        reject (.operand key.chars operator.need operand.kindName) here
      else match operator.need, operand with
        | .array, .list items => checkScalars here 0 items
        | .comparison, operand => checkComparison here operand
        | .clause, operand => checkClause here operand
        | _, _ => .ok ()
    checkOperands trail rest

end

def validate (filter : Value) : Except Rejection Unit := checkClause [] filter

end QueryGate.Filter
