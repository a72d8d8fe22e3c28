/-!
The operators a filter may use. A key of a filter is an operator if it starts with the sigil, and a
property otherwise; of the operators only those listed here are allowed.
-/

namespace QueryGate.Filter

inductive Operator where
  | eq | ne | gt | gte | lt | lte
  | within | notWithin | all | size | elemMatch
  | both | either | neither | negated
  | present | kind
  | pattern | patternFlags
deriving DecidableEq, Repr

namespace Operator

def allowed : List Operator :=
  [eq, ne, gt, gte, lt, lte, within, notWithin, all, size, elemMatch, both, either, neither, negated,
    present, kind, pattern, patternFlags]

def key : Operator → String
  | eq => "$eq"
  | ne => "$ne"
  | gt => "$gt"
  | gte => "$gte"
  | lt => "$lt"
  | lte => "$lte"
  | within => "$in"
  | notWithin => "$nin"
  | all => "$all"
  | size => "$size"
  | elemMatch => "$elemMatch"
  | both => "$and"
  | either => "$or"
  | neither => "$nor"
  | negated => "$not"
  | present => "$exists"
  | kind => "$type"
  | pattern => "$regex"
  | patternFlags => "$options"

def ofKey? (key : String) : Option Operator := allowed.find? fun op => op.key == key

theorem mem_allowed (op : Operator) : op ∈ allowed := by cases op <;> decide

theorem ofKey?_key (op : Operator) : ofKey? op.key = some op := by cases op <;> decide

theorem key_of_ofKey? {key : String} {op : Operator} (found : ofKey? key = some op) : op.key = key := by
  have same := List.find?_some found
  simpa using same

def isCombinator : Operator → Bool
  | both | either | neither => true
  | _ => false

/-- Operators whose operands are never compared with the value of a property. -/
def ignoresValue : Operator → Bool
  | present | size | kind | pattern | patternFlags => true
  | _ => false

def isComparison : Operator → Bool
  | both | either | neither => false
  | _ => true

end Operator

def sigil : Char := '$'

def isOperatorKey (key : String) : Bool := key.toList.head? == some sigil

theorem isOperatorKey_key (op : Operator) : isOperatorKey op.key = true := by cases op <;> decide

end QueryGate.Filter
