import QueryGate.Filter.Operator
import QueryGate.Query.PageQuery
/-!
Scopes. A service confines what a caller can reach by joining the filter of the caller with a scope that
the caller never sees. A scope without conditions confines nothing.
-/

namespace QueryGate.Collector

open QueryGate.Query

def givenFilter : Value → Value
  | .null => .empty
  | filter => filter

def bothFilters (filter scope : Value) : Value :=
  .map [(.text Filter.Operator.both.key, .list [filter, scope])]

def scopedFilter (filter scope : Value) : Except ParameterError Value :=
  match scope with
  | .null => .ok (givenFilter filter)
  | .map [] => .ok (givenFilter filter)
  | .map conditions => .ok (bothFilters (givenFilter filter) (.map conditions))
  | scope => .error (.scope scope.typeName)

end QueryGate.Collector
