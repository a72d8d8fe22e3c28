import QueryGate.Query.Populate
/-!
Calls on an execution model. A find call is refined step by step before it runs, a count call may be
limited. Requests say what is asked for; the calls of a request are the steps that ask for it, in order.
-/

namespace QueryGate.Collector

open QueryGate.Query

inductive Side where
  | find
  | count
deriving DecidableEq, Repr

def Side.name : Side → String
  | .find => "find"
  | .count => "count"

inductive Refinement where
  | populate (relations : List Value)
  | lean
  | skip (count : Value)
  | limit (count : Value)
  | sort (order : Value)
  | select (fields : Value)

structure FindRequest where
  filter : Value
  refinements : List Refinement

structure CountRequest where
  filter : Value
  limit : Option Int

inductive Call where
  | find (filter : Value)
  | refine (step : Refinement)
  | countDocuments (filter : Value)
  | countLimit (count : Int)
  | aggregate (pipeline : Value)
  | distinct (field : String) (filter : Value)
  | exec (side : Side)
  | aggregateExec
  | cancelled (side : Side)

def Refinement.written : Refinement → String × List Value
  | .populate relations => ("find.populate", [.list relations])
  | .lean => ("find.lean", [])
  | .skip count => ("find.skip", [count])
  | .limit count => ("find.limit", [count])
  | .sort order => ("find.sort", [order])
  | .select fields => ("find.select", [fields])

def Call.written : Call → String × List Value
  | .find filter => ("find", [filter])
  | .refine step => step.written
  | .countDocuments filter => ("count_documents", [filter])
  | .countLimit count => ("count.limit", [.int count])
  | .aggregate pipeline => ("aggregate", [pipeline])
  | .distinct field filter => ("distinct", [.text field, filter])
  | .exec side => (side.name ++ ".exec", [])
  | .aggregateExec => ("aggregate.exec", [])
  | .cancelled side => (side.name ++ ".cancelled", [])

def FindRequest.calls (request : FindRequest) : List Call :=
  .find request.filter :: request.refinements.map Call.refine

def CountRequest.calls (request : CountRequest) : List Call :=
  .countDocuments request.filter ::
    (request.limit.elim [] fun count => [.countLimit count])

def Call.filter? : Call → Option Value
  | .find filter | .countDocuments filter | .distinct _ filter => some filter
  | _ => none

end QueryGate.Collector
