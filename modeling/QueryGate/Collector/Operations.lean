import QueryGate.Collector.Model
import QueryGate.Collector.Scope
import QueryGate.Collector.TieBreak
import QueryGate.Query.Pagination
import QueryGate.Journal.Line
/-!
The operations of a collector. Each takes the filter of a caller, confines it to a scope, states a
request to the model and shapes the answer. Sort orders get the identity field as the last key, so that
pages do not depend on the order of equal documents. An operation tells which calls it made, what came
of them, and what it has to say for the journal.
-/

namespace QueryGate

open QueryGate.Query QueryGate.Journal

namespace Collector

inductive CollectError where
  | parameter (problem : ParameterError)
  | unsupported (capability : String) (model : String)
  | order (problem : OrderError)
  | overlong
  | uncountable
  | failed (message : String)
  | stuck

structure Run (α : Type) where
  calls : List Call
  lines : List Line
  outcome : Except CollectError α

structure FindOptions where
  limit : Value := .null
  skip : Value := .null
  sort : Value := .null
  populate : Option (List Relation) := none
  select : Value := .null

def FindOptions.literal? (options : FindOptions) : Option String := do
  let limit ← options.limit.literal?
  let skip ← options.skip.literal?
  let sort ← options.sort.literal?
  let select ← options.select.literal?
  some ("FindOptions(limit=" ++ limit ++ ", skip=" ++ skip ++ ", sort=" ++ sort ++
    ", populate=" ++ relationsLiteral options.populate ++ ", select=" ++ select ++ ")")

def Behaviour.outcome {α : Type} (behaviour : Behaviour α) : Except CollectError α :=
  match behaviour.ending with
  | .returns value => .ok value
  | .raises message => .error (.failed message)
  | .never => .error .stuck

def sortStep (identityField order : Value) : Except CollectError Refinement :=
  match withTieBreak identityField order with
  | .ok order => .ok (.sort order)
  | .error problem => .error (.order problem)

def Run.refused {α : Type} (problem : CollectError) : Run α := ⟨[], [], .error problem⟩

def withinScope {α : Type} (filter scope : Value) (run : Value → Run α) : Run α :=
  match scopedFilter filter scope with
  | .error problem => .refused (.parameter problem)
  | .ok confined => run confined

/-- A run that is told before it starts: nothing is done where that cannot be put into words. -/
def announced {α : Type} (line : Option Line) (run : Line → Run α) : Run α :=
  match line with
  | none => .refused .overlong
  | some line => run line

end Collector

structure Collector where
  model : Collector.Model
  identityField : Value

def Collector.forRegistry (model : Collector.Model) (registry : Registry) : Collector :=
  ⟨model, registry.identityField⟩

namespace Collector

/-! ## One page -/

def pageSteps (query : PageQuery) (populate : Option (List Relation)) : List Refinement :=
  [.populate (populateSpec (populate.getD [])), .lean,
    .skip (.int ((query.page - 1) * query.limit)), .limit (.int query.limit)]

def pageRequest (collector : Collector) (query : PageQuery) (populate : Option (List Relation))
    (confined : Value) : FindRequest × Except CollectError Unit :=
  let plain : FindRequest := ⟨confined, pageSteps query populate⟩
  if query.sorter.isVacant then (plain, .ok ())
  else match sortStep collector.identityField query.sorter with
    | .ok step => ({ plain with refinements := plain.refinements ++ [step] }, .ok ())
    | .error problem => (plain, .error problem)

/-- The calls that two queries make while they run, from where things stand two turns after the end. A
query that waits for ever tells that it was cancelled. -/
def joinedCalls (page : Behaviour (List Value)) (count : Behaviour Value) : List Call :=
  let settled := Joined.settled page count 2
  let cancelled {α : Type} (side : Side) (behaviour : Behaviour α) (status : Status α) : List Call :=
    match behaviour.ending with
    | .never => if status.isCancelled then [.cancelled side] else []
    | _ => []
  [.exec .find, .exec .count] ++ cancelled .find page settled.page ++
    cancelled .count count settled.count

def pageOf (query : PageQuery) (data : List Value) (total : Value) : Except CollectError PageResponse :=
  match paginateValue? query.page query.limit total with
  | some place => .ok ⟨data, place⟩
  | none => .error .uncountable

def joinedOutcome (query : PageQuery) (page : Behaviour (List Value)) (count : Behaviour Value) :
    Except CollectError PageResponse :=
  match (Joined.settled page count 0).wait with
  | .returned data total => pageOf query data total
  | .raised message => .error (.failed message)
  | _ => .error .stuck

def pageLine? (query : PageQuery) (confined : Value) : Option Line := do
  let page ← Number.write? query.page
  let limit ← Number.write? query.limit
  let sorter ← query.sorter.plain?
  let filter ← confined.plain?
  some ⟨.debug, "find page=" ++ page ++ " limit=" ++ limit ++ " sort=" ++ sorter ++ " filter=" ++ filter⟩

def find (collector : Collector) (query : PageQuery) (scope : Value)
    (populate : Option (List Relation)) : Run PageResponse :=
  withinScope query.filter scope fun confined => announced (pageLine? query confined) fun line =>
    match collector.pageRequest query populate confined with
    | (request, .error problem) => ⟨request.calls, [line], .error problem⟩
    | (request, .ok ()) =>
      let total : CountRequest := ⟨confined, none⟩
      let page := collector.model.find request
      let count := collector.model.count total
      ⟨request.calls ++ total.calls ++ joinedCalls page count, [line], joinedOutcome query page count⟩

/-! ## All documents -/

def optionStep (step : Value → Refinement) : Value → List Refinement
  | .null => []
  | value => [step value]

def allRequest (collector : Collector) (options : FindOptions) (confined : Value) :
    FindRequest × Except CollectError Unit :=
  let populate := options.populate.elim [] fun relations => [Refinement.populate (populateSpec relations)]
  let plain : FindRequest :=
    ⟨confined, .lean :: populate ++ optionStep .select options.select ++
      optionStep .skip options.skip ++ optionStep .limit options.limit⟩
  match options.sort with
  | .null => (plain, .ok ())
  | order => match sortStep collector.identityField order with
    | .ok step => ({ plain with refinements := plain.refinements ++ [step] }, .ok ())
    | .error problem => (plain, .error problem)

def allLine? (confined : Value) (options : FindOptions) : Option Line := do
  let filter ← confined.plain?
  let shown ← options.literal?
  some ⟨.debug, "find_all filter=" ++ filter ++ " options=" ++ shown⟩

def findAll (collector : Collector) (filter scope : Value) (options : FindOptions) :
    Run (List Value) :=
  withinScope filter scope fun confined => announced (allLine? confined options) fun line =>
    match collector.allRequest options confined with
    | (request, .error problem) => ⟨request.calls, [line], .error problem⟩
    | (request, .ok ()) =>
      ⟨request.calls ++ [.exec .find], [line], (collector.model.find request).outcome⟩

def findWithLimit (collector : Collector) (filter limit scope : Value)
    (populate : Option (List Relation)) : Run (List Value) :=
  collector.findAll filter scope { limit := limit, populate := populate }

def findOne (collector : Collector) (filter scope : Value) (options : FindOptions) : Run Value :=
  let run := collector.findAll filter scope { options with limit := .int 1 }
  ⟨run.calls, run.lines, run.outcome.map fun documents => documents.headD .null⟩

/-! ## Counting -/

def runCount (collector : Collector) (request : CountRequest) : Run Value :=
  ⟨request.calls ++ [.exec .count], [], (collector.model.count request).outcome⟩

def count (collector : Collector) (filter scope : Value) : Run Value :=
  withinScope filter scope fun confined => collector.runCount ⟨confined, none⟩

/-- What can be counted: what a query for a number asks for, what a query for a page does, or what matches
a filter that is given alone. -/
inductive CountTarget where
  | total (filter : Value)
  | page (query : PageQuery)
  | bare (filter : Value)

def CountTarget.filterOf : CountTarget → Value
  | .total filter | .bare filter => filter
  | .page query => query.filter

def countOf (collector : Collector) (target : CountTarget) (scope : Value) : Run Value :=
  collector.count target.filterOf scope

def isPositive (total : Value) : Except CollectError Bool :=
  match total.above? 0 with
  | some positive => .ok positive
  | none => .error .uncountable

def exists? (collector : Collector) (filter scope : Value) : Run Bool :=
  withinScope filter scope fun confined =>
    let run := collector.runCount ⟨confined, some 1⟩
    ⟨run.calls, run.lines, run.outcome.bind isPositive⟩

/-! ## Optional capabilities -/

def unsupported {α : Type} (collector : Collector) (operation capability : String) : Run α :=
  ⟨[], [⟨.error, operation ++ "() called on " ++ collector.model.name ++ ", which lacks it"⟩],
    .error (.unsupported capability collector.model.name)⟩

def aggregate (collector : Collector) (pipeline : Value) : Run (List Value) :=
  match collector.model.aggregate with
  | none => collector.unsupported "aggregate" "aggregation"
  | some answer => ⟨[.aggregate pipeline, .aggregateExec], [], (answer pipeline).outcome⟩

def distinct (collector : Collector) (field : String) (filter scope : Value) : Run (List Value) :=
  match collector.model.distinct with
  | none => collector.unsupported "distinct" "distinct"
  | some answer =>
    withinScope filter scope fun confined => ⟨[.distinct field confined], [], .ok (answer field confined)⟩

end Collector

end QueryGate
