import QueryGate.Proofs.Collector.PageCalls
import QueryGate.Proofs.Value.Tree
import QueryGate.Report
/-!
Confinement to a scope. Every operation that takes a filter joins it with its scope first and makes its
calls with the joined filter alone. So whatever filters mean, a model is asked for nothing outside the scope,
and a scope that is none stops the operation before the first call.
-/

namespace QueryGate.Collector

open QueryGate.Query

/-! ## What filters mean -/

/-- What it means that a filter holds of a document: the empty one always does, and a conjunction does if
all its filters do. -/
structure Semantics (Document : Type) where
  Holds : Value → Document → Prop
  empty (document : Document) : Holds .empty document
  both (filters : List Value) (document : Document) :
    Holds (.map [(.text "$and", .list filters)]) document ↔ ∀ filter ∈ filters, Holds filter document

private theorem Semantics.holds_scopedFilter {Document : Type} (semantics : Semantics Document)
    {filter scope handed : Value} (within : scopedFilter filter scope = .ok handed)
    (document : Document) :
    semantics.Holds handed document ↔
      semantics.Holds (givenFilter filter) document ∧ semantics.Holds (givenFilter scope) document := by
  unfold scopedFilter at within
  split at within
  next =>
    rw [← Except.ok.inj within, givenFilter.eq_1]
    exact (and_iff_left (semantics.empty document)).symm
  next =>
    rw [← Except.ok.inj within]
    exact (and_iff_left (semantics.empty document)).symm
  next conditions _ =>
    rw [← Except.ok.inj within]
    refine (semantics.both _ document).trans ?_
    rw [List.forall_mem_cons, List.forall_mem_singleton]
    rfl
  next => cases within

/-! ## Operations -/

inductive Operation where
  | page (query : PageQuery) (populate : Option (List Relation))
  | all (filter : Value) (options : FindOptions)
  | limited (filter limit : Value) (populate : Option (List Relation))
  | one (filter : Value) (options : FindOptions)
  | count (target : CountTarget)
  | existence (filter : Value)
  | distinct (field : String) (filter : Value)

inductive Answer where
  | page (response : PageResponse)
  | documents (data : List Value)
  | document (found : Value)
  | total (count : Value)
  | existence (found : Bool)
  | values (data : List Value)

def Run.map {α β : Type} (change : α → β) (run : Run α) : Run β :=
  ⟨run.calls, run.lines, run.outcome.map change⟩

namespace Operation

def filterOf : Operation → Value
  | .page query _ => query.filter
  | .all filter _ | .limited filter _ _ | .one filter _ | .existence filter | .distinct _ filter => filter
  | .count target => target.filterOf

def run (collector : Collector) (scope : Value) : Operation → Run Answer
  | .page query populate => (collector.find query scope populate).map .page
  | .all filter options => (collector.findAll filter scope options).map .documents
  | .limited filter limit populate => (collector.findWithLimit filter limit scope populate).map .documents
  | .one filter options => (collector.findOne filter scope options).map .document
  | .count target => (collector.countOf target scope).map .total
  | .existence filter => (collector.exists? filter scope).map .existence
  | .distinct field filter => (collector.distinct field filter scope).map .values

/-- Documents are looked for in words, and a number with too many digits has none. -/
def HasOverlong (scope : Value) : Operation → Prop
  | .page query _ => PageOverlong query scope
  | .all filter options => AllOverlong filter scope options
  | .limited filter limit populate => AllOverlong filter scope { limit := limit, populate := populate }
  | .one filter options => AllOverlong filter scope { options with limit := .int 1 }
  | .count _ | .existence _ | .distinct _ _ => False

def IsSupported (model : Model) : Operation → Prop
  | .distinct _ _ => model.distinct.isSome = true
  | _ => True

end Operation

/-! ## Filters handed over -/

def handedFilters (calls : List Call) : List Value := calls.filterMap Call.filter?

theorem handedFilters_append (calls others : List Call) :
    handedFilters (calls ++ others) = handedFilters calls ++ handedFilters others :=
  List.filterMap_append

theorem handedFilters_findRequest (request : FindRequest) :
    handedFilters request.calls = [request.filter] := by
  have refinements : handedFilters (request.refinements.map Call.refine) = [] := by
    simp [handedFilters, Call.filter?]
  exact congrArg (request.filter :: ·) refinements

theorem handedFilters_countRequest (request : CountRequest) :
    handedFilters request.calls = [request.filter] := by
  unfold CountRequest.calls
  cases request.limit <;> rfl

private theorem handedFilters_joinedCalls (page : Behaviour (List Value)) (count : Behaviour Value) :
    handedFilters (joinedCalls page count) = [] :=
  joinedCalls_filterMap Call.filter? (fun _ => rfl) (fun _ => rfl) page count

theorem pageRequest_filter (collector : Collector) (query : PageQuery)
    (populate : Option (List Relation)) (confined : Value) :
    (collector.pageRequest query populate confined).1.filter = confined := by
  unfold pageRequest
  split
  · rfl
  · split <;> rfl

theorem allRequest_filter (collector : Collector) (options : FindOptions) (confined : Value) :
    (collector.allRequest options confined).1.filter = confined := by
  unfold allRequest
  split
  · rfl
  · split <;> rfl

/-! ## Runs within a scope -/

/-- A run that hands over one filter, at least once, and no other. -/
structure Hands {α : Type} (filter : Value) (run : Run α) : Prop where
  some : handedFilters run.calls ≠ []
  only : ∀ handed ∈ handedFilters run.calls, handed = filter

/-- A run that hands over one filter, unless it is one that cannot be told about. -/
def HandsUnless {α : Type} (overlong : Prop) (filter : Value) (run : Run α) : Prop :=
  (overlong → run = .refused .overlong) ∧ (¬overlong → Hands filter run)

theorem HandsUnless.map {α β : Type} {overlong : Prop} {filter : Value} {run : Run α}
    (hands : HandsUnless overlong filter run) (change : α → β) : HandsUnless overlong filter (run.map change) := by
  refine ⟨fun long => ?_, fun short => ⟨(hands.2 short).some, (hands.2 short).only⟩⟩
  rw [hands.1 long]
  rfl

theorem Hands.unless {α : Type} {filter : Value} {run : Run α} (hands : Hands filter run) :
    HandsUnless False filter run := ⟨False.elim, fun _ => hands⟩

theorem Hands.of_eq_replicate {α : Type} {run : Run α} {filter : Value} (times : Nat)
    (same : handedFilters run.calls = List.replicate (times + 1) filter) : Hands filter run where
  some := by simp [same]
  only handed member := List.eq_of_mem_replicate (same ▸ member)

variable {collector : Collector} {filter scope confined : Value}

private theorem hands_find (query : PageQuery) (populate : Option (List Relation))
    (within : scopedFilter query.filter scope = .ok confined) :
    HandsUnless (PageOverlong query scope) confined (collector.find query scope populate) := by
  refine ⟨find_of_overlong within, fun short => ?_⟩
  obtain ⟨line, told⟩ := exists_pageLine within short
  have asked := pageRequest_filter collector query populate confined
  simp only [find, withinScope_ok within, told, announced]
  split
  next request problem stated =>
    rw [stated] at asked
    refine .of_eq_replicate 0 ?_
    rw [handedFilters_findRequest, asked]
    rfl
  next request stated =>
    rw [stated] at asked
    refine .of_eq_replicate 1 ?_
    rw [handedFilters_append, handedFilters_append, handedFilters_findRequest,
      handedFilters_countRequest, handedFilters_joinedCalls, asked]
    rfl

theorem hands_findAll (options : FindOptions)
    (within : scopedFilter filter scope = .ok confined) :
    HandsUnless (AllOverlong filter scope options) confined (collector.findAll filter scope options) := by
  refine ⟨findAll_of_overlong within, fun short => .of_eq_replicate 0 ?_⟩
  obtain ⟨line, told⟩ := exists_allLine within short
  have asked := allRequest_filter collector options confined
  simp only [findAll, withinScope_ok within, told, announced]
  split
  next request problem stated =>
    rw [stated] at asked
    rw [handedFilters_findRequest, asked]
    rfl
  next request stated =>
    rw [stated] at asked
    rw [handedFilters_append, handedFilters_findRequest, asked]
    rfl

theorem hands_runCount (request : CountRequest) :
    Hands request.filter (collector.runCount request) := by
  refine .of_eq_replicate 0 ?_
  rw [runCount, handedFilters_append, handedFilters_countRequest]
  rfl

private theorem hands_distinct {answer : String → Value → List Value}
    (listed : collector.model.distinct = some answer) (field : String)
    (within : scopedFilter filter scope = .ok confined) :
    Hands confined (collector.distinct field filter scope) := by
  refine .of_eq_replicate 0 ?_
  rw [distinct, listed]
  simp only [withinScope_ok within]
  rfl

namespace Operation

variable {operation : Operation}

theorem hands_run (supported : operation.IsSupported collector.model)
    (within : scopedFilter operation.filterOf scope = .ok confined) :
    HandsUnless (operation.HasOverlong scope) confined (operation.run collector scope) := by
  cases operation with
  | page query populate => exact (hands_find query populate within).map Answer.page
  | all filter options => exact (hands_findAll options within).map Answer.documents
  | limited filter limit populate => exact (hands_findAll _ within).map Answer.documents
  | one filter options =>
    have hands : HandsUnless _ confined (collector.findAll filter scope { options with limit := .int 1 }) :=
      hands_findAll _ within
    exact (hands.map fun documents => documents.headD .null).map Answer.document
  | count target =>
    have opened : collector.countOf target scope = collector.runCount ⟨confined, none⟩ :=
      withinScope_ok within
    rw [run, opened]
    exact (hands_runCount ⟨confined, none⟩).unless.map Answer.total
  | existence filter =>
    have opened : (collector.exists? filter scope).calls = (collector.runCount ⟨confined, some 1⟩).calls :=
      congrArg Run.calls (withinScope_ok within)
    have hands : Hands confined (collector.runCount ⟨confined, some 1⟩) :=
      hands_runCount ⟨confined, some 1⟩
    exact Hands.unless ⟨opened ▸ hands.some, opened ▸ hands.only⟩
  | distinct field filter =>
    obtain ⟨answer, listed⟩ := Option.isSome_iff_exists.mp supported
    exact (hands_distinct listed field within).unless.map Answer.values

theorem run_refused (supported : operation.IsSupported collector.model) {problem : ParameterError}
    (foreign : scopedFilter operation.filterOf scope = .error problem) :
    operation.run collector scope = .refused (.parameter problem) := by
  cases operation with
  | page query populate => exact congrArg (Run.map Answer.page) (withinScope_error foreign)
  | all filter options => exact congrArg (Run.map Answer.documents) (withinScope_error foreign)
  | limited filter limit populate => exact congrArg (Run.map Answer.documents) (withinScope_error foreign)
  | one filter options =>
    have stopped : collector.findAll filter scope { options with limit := .int 1 } =
        .refused (.parameter problem) := withinScope_error foreign
    rw [run, findOne, stopped]
    rfl
  | count target => exact congrArg (Run.map Answer.total) (withinScope_error foreign)
  | existence filter => exact congrArg (Run.map Answer.existence) (withinScope_error foreign)
  | distinct field filter =>
    obtain ⟨answer, listed⟩ := Option.isSome_iff_exists.mp supported
    rw [run, Collector.distinct, listed]
    exact congrArg (Run.map Answer.values) (withinScope_error foreign)

private theorem calls_of_not_supported (lacking : ¬operation.IsSupported collector.model) :
    (operation.run collector scope).calls = [] := by
  cases operation with
  | distinct field filter =>
    rw [run, Collector.distinct, Option.not_isSome_iff_eq_none.mp lacking]
    rfl
  | _ => exact absurd trivial lacking

end Operation

/-! ## Other filters -/

/-- Two models that answer alike where they are handed a filter, if that filter is handed over at all. -/
structure Alike (handed : Except ParameterError Value) (model other : Model) : Prop where
  name : other.name = model.name
  lists : other.distinct.isSome = model.distinct.isSome
  find (request : FindRequest) (asked : handed = .ok request.filter) :
    other.find request = model.find request
  count (request : CountRequest) (asked : handed = .ok request.filter) :
    other.count request = model.count request
  distinct {filter : Value} (asked : handed = .ok filter) (field : String) :
    other.distinct.map (fun answer => answer field filter) =
      model.distinct.map fun answer => answer field filter

variable {other : Model}

theorem withinScope_congr {α : Type} {body changed : Value → Run α}
    (same : ∀ confined, scopedFilter filter scope = .ok confined → changed confined = body confined) :
    withinScope filter scope changed = withinScope filter scope body := by
  unfold withinScope
  split
  next => rfl
  next confined within => exact same confined within

theorem runCount_congr {handed : Except ParameterError Value} (alike : Alike handed collector.model other)
    (request : CountRequest) (asked : handed = .ok request.filter) :
    Collector.runCount ⟨other, collector.identityField⟩ request = collector.runCount request := by
  rw [runCount, runCount, alike.count request asked]

private theorem find_congr {query : PageQuery} (populate : Option (List Relation))
    (alike : Alike (scopedFilter query.filter scope) collector.model other) :
    Collector.find ⟨other, collector.identityField⟩ query scope populate =
      collector.find query scope populate := by
  apply withinScope_congr
  intro confined within
  have same : Collector.pageRequest ⟨other, collector.identityField⟩ query populate confined =
      collector.pageRequest query populate confined := rfl
  have asked := pageRequest_filter collector query populate confined
  congr 1
  funext line
  simp only [same]
  split
  next => rfl
  next request stated =>
    rw [stated] at asked
    rw [alike.find request (by rw [within, ← asked]), alike.count ⟨confined, none⟩ within]

theorem findAll_congr (options : FindOptions)
    (alike : Alike (scopedFilter filter scope) collector.model other) :
    Collector.findAll ⟨other, collector.identityField⟩ filter scope options =
      collector.findAll filter scope options := by
  apply withinScope_congr
  intro confined within
  have same : Collector.allRequest ⟨other, collector.identityField⟩ options confined =
      collector.allRequest options confined := rfl
  have asked := allRequest_filter collector options confined
  congr 1
  funext line
  simp only [same]
  split
  next => rfl
  next request stated =>
    rw [stated] at asked
    rw [alike.find request (by rw [within, ← asked])]

private theorem count_congr (alike : Alike (scopedFilter filter scope) collector.model other) :
    Collector.count ⟨other, collector.identityField⟩ filter scope = collector.count filter scope :=
  withinScope_congr fun confined within => runCount_congr alike ⟨confined, none⟩ within

theorem exists_congr (alike : Alike (scopedFilter filter scope) collector.model other) :
    Collector.exists? ⟨other, collector.identityField⟩ filter scope = collector.exists? filter scope := by
  apply withinScope_congr
  intro confined within
  rw [runCount_congr alike ⟨confined, some 1⟩ within]

private theorem distinct_congr (field : String)
    (alike : Alike (scopedFilter filter scope) collector.model other) :
    Collector.distinct ⟨other, collector.identityField⟩ field filter scope =
      collector.distinct field filter scope := by
  have lists := alike.lists
  cases listed : collector.model.distinct with
  | none =>
    rw [listed, Option.isSome_none, Option.isSome_eq_false_iff, Option.isNone_iff_eq_none] at lists
    simp only [Collector.distinct, listed, lists, unsupported, alike.name]
  | some answer =>
    rw [listed] at lists
    obtain ⟨changed, known⟩ := Option.isSome_iff_exists.mp lists
    simp only [Collector.distinct, listed, known]
    apply withinScope_congr
    intro confined within
    have same : changed field confined = answer field confined := by
      have answers := alike.distinct within field
      rw [listed, known] at answers
      exact Option.some.inj answers
    rw [same]

private theorem Operation.run_congr {operation : Operation}
    (alike : Alike (scopedFilter operation.filterOf scope) collector.model other) :
    operation.run ⟨other, collector.identityField⟩ scope = operation.run collector scope := by
  cases operation with
  | page query populate => exact congrArg (Run.map Answer.page) (find_congr populate alike)
  | all filter options => exact congrArg (Run.map Answer.documents) (findAll_congr options alike)
  | limited filter limit populate => exact congrArg (Run.map Answer.documents) (findAll_congr _ alike)
  | one filter options =>
    have same : Collector.findAll ⟨other, collector.identityField⟩ filter scope
        { options with limit := .int 1 } = collector.findAll filter scope { options with limit := .int 1 } :=
      findAll_congr _ alike
    rw [run, run, findOne, findOne, same]
  | count target => exact congrArg (Run.map Answer.total) (count_congr alike)
  | existence filter => exact congrArg (Run.map Answer.existence) (exists_congr alike)
  | distinct field filter => exact congrArg (Run.map Answer.values) (distinct_congr field alike)

/-! ## Confinement -/

/-- Whatever filter an operation hands to its model is the caller's filter within the scope, which holds
where both hold. A supported operation hands it over if there is such a filter, but for one that looks for
documents with a number of too many digits, and is refused before any call if the scope is none. What the model
would answer to other filters does not matter. -/
theorem operation_confined (collector : Collector) (operation : Operation) (scope : Value) :
    let run := operation.run collector scope
    (∀ handed ∈ handedFilters run.calls, scopedFilter operation.filterOf scope = .ok handed ∧
      ∀ (Document : Type) (semantics : Semantics Document) (document : Document),
        semantics.Holds handed document ↔
          semantics.Holds (givenFilter operation.filterOf) document ∧
            semantics.Holds (givenFilter scope) document) ∧
    (operation.IsSupported collector.model →
      (IsScope scope → (handedFilters run.calls = [] ↔ operation.HasOverlong scope)) ∧
      (¬IsScope scope → ∃ problem, run = .refused problem ∧
        problem.report? =
          some ⟨.parameter, "Scope must be a mapping, got " ++ scope.typeName, []⟩)) ∧
    ∀ other, Alike (scopedFilter operation.filterOf scope) collector.model other →
      operation.run ⟨other, collector.identityField⟩ scope = run := by
  intro run
  refine ⟨fun handed member => ?_, fun supported => ⟨fun valid => ?_, fun foreign => ?_⟩,
    fun other alike => Operation.run_congr alike⟩
  · have within : scopedFilter operation.filterOf scope = .ok handed := by
      by_cases supported : operation.IsSupported collector.model
      · cases within : scopedFilter operation.filterOf scope with
        | ok confined =>
          have hands := Operation.hands_run supported within
          by_cases overlong : operation.HasOverlong scope
          · rw [show run = _ from hands.1 overlong] at member
            cases member
          · rw [(hands.2 overlong).only handed member]
        | error problem =>
          rw [show run = _ from Operation.run_refused supported within] at member
          cases member
      · rw [show run.calls = [] from Operation.calls_of_not_supported supported] at member
        cases member
    exact ⟨within, fun _ semantics => semantics.holds_scopedFilter within⟩
  · obtain ⟨confined, within⟩ := exists_scopedFilter operation.filterOf valid
    have hands := Operation.hands_run supported within
    refine ⟨fun none => Classical.byContradiction fun short => (hands.2 short).some none, fun overlong => ?_⟩
    · rw [show run = _ from hands.1 overlong]
      rfl
  · exact ⟨_, Operation.run_refused supported (scopedFilter_eq_error _ foreign), rfl⟩

/-- Documents are their field names; a filter holds if they have every field that it names. -/
def namingSemantics : Semantics (List Atom) where
  Holds filter document := ∀ key ∈ filter.everyKey, key = .text "$and" ∨ key ∈ document
  empty document := by simp [Value.empty, Value.mem_everyKey_map]
  both filters document := by
    simp only [Value.mem_everyKey_map, List.mem_singleton, exists_eq_left, Value.mem_everyKey_list]
    constructor
    · exact fun each filter member key inside => each key (.inr ⟨filter, member, inside⟩)
    · rintro each key (rfl | ⟨filter, member, inside⟩)
      · exact .inl rfl
      · exact each filter member key inside

/-- Distinct values within a workspace: a document that has none is not matched, a model that lists everything
without the workspace is not noticed, and a name instead of a mapping stops before any call. -/
theorem operation_confined_workspace :
    let collector : Collector := ⟨{ Script.blank with canDistinct := true }.model "Files", .text "_id"⟩
    let leaking : Model := { collector.model with
      distinct := some fun _ filter => if filter.isVacant then [.null] else [] }
    let operation : Operation := .distinct "name" .null
    let scope : Value := .map [(.text "workspace", .text "w")]
    let confined : Value := .map [(.text "$and", .list [.empty, scope])]
    handedFilters (operation.run collector scope).calls = [confined] ∧
      scopedFilter .null scope = .ok confined ∧ ¬namingSemantics.Holds confined [.text "name"] ∧
      operation.run ⟨leaking, .text "_id"⟩ scope = operation.run collector scope ∧
      operation.run ⟨leaking, .text "_id"⟩ .null ≠ operation.run collector .null ∧
      (operation.run collector (.text "w")).calls = [] := by
  intro collector leaking operation scope confined
  obtain ⟨handed, supported, others⟩ := operation_confined collector operation scope
  obtain ⟨within, means⟩ := handed confined (List.mem_singleton_self _)
  have foreign : ¬IsScope (.text "w") := by nofun
  obtain ⟨-, refused, -⟩ := operation_confined collector operation (.text "w")
  have unmatched : ¬namingSemantics.Holds confined [.text "name"] := by
    intro holds
    have named := ((means _ namingSemantics _).mp holds).2 (.text "workspace")
    simp [scope, givenFilter, Value.mem_everyKey_map] at named
  have alike : Alike (scopedFilter operation.filterOf scope) collector.model leaking := by
    refine ⟨rfl, rfl, fun _ _ => rfl, fun _ _ => rfl, fun {filter} asked field => ?_⟩
    rw [← Except.ok.inj asked]
    rfl
  have noticed : operation.run ⟨leaking, .text "_id"⟩ .null ≠ operation.run collector .null := by
    intro same
    cases same
  obtain ⟨problem, stopped, -⟩ := (refused rfl).2 foreign
  exact ⟨rfl, within, unmatched, others leaking alike, noticed, congrArg Run.calls stopped⟩

end QueryGate.Collector
