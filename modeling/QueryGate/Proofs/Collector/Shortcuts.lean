import QueryGate.Proofs.Collector.Paging
/-!
Shortcuts of a collector. A limit cuts the answer of a model that answers from a collection in the standard
way and changes nothing else. So one document, some documents, the number of documents and whether there
is one are all read off the list of all documents, and fail where that list does.
-/

namespace QueryGate.Collector

open QueryGate.Query

/-! ## Limits -/

def Refinement.isLimit : Refinement → Bool
  | .limit _ => true
  | _ => false

def Plan.upTo (limit : Option Nat) (plan : Plan) : Plan := { plan with limit := limit }

variable {before after steps : List Refinement}

private theorem Plan.refine?_upTo {step : Refinement} (other : step.isLimit = false) (plan : Plan)
    (limit : Option Nat) : (plan.upTo limit).refine? step = (plan.refine? step).map (Plan.upTo limit) := by
  unfold Plan.refine?
  split
  next order => cases readOrder? order <;> rfl
  next count => split <;> rfl
  next => cases other
  next => rfl
  next => cases other
  all_goals rfl

theorem Plan.foldlM_upTo (unlimited : ∀ step ∈ steps, step.isLimit = false) (plan : Plan)
    (limit : Option Nat) :
    steps.foldlM Plan.refine? (plan.upTo limit) =
      (steps.foldlM Plan.refine? plan).map (Plan.upTo limit) := by
  induction steps generalizing plan with
  | nil => rfl
  | cons step steps ih =>
    rw [List.forall_mem_cons] at unlimited
    rw [List.foldlM_cons, List.foldlM_cons, Plan.refine?_upTo unlimited.1]
    cases plan.refine? step with
    | none => rfl
    | some later => exact ih unlimited.2 later

/-- Without a step that limits it, a request asks for everything from where it starts. -/
theorem plan?_unlimited (unlimited : ∀ step ∈ steps, step.isLimit = false) {filter : Value} {plan : Plan}
    (planned : FindRequest.plan? ⟨filter, steps⟩ = some plan) : plan.limit = none := by
  have same := Plan.foldlM_upTo unlimited Plan.all none
  rw [show Plan.all.upTo none = Plan.all from rfl, show steps.foldlM Plan.refine? Plan.all = some plan from planned,
    Option.map_some] at same
  exact congrArg Plan.limit (Option.some.inj same)

/-- A limit, wherever it stands among the steps, limits what they come to without it. -/
theorem plan?_limited (unlimited : ∀ step ∈ before ++ after, step.isLimit = false) (filter : Value)
    (limit : Nat) :
    FindRequest.plan? ⟨filter, before ++ .limit (.int limit) :: after⟩ =
      (FindRequest.plan? ⟨filter, before ++ after⟩).map (Plan.upTo (some limit)) := by
  have known (plan : Plan) : plan.refine? (.limit (.int limit)) = some (plan.upTo (some limit)) := by
    rw [Plan.refine?, if_pos (Int.natCast_nonneg limit)]
    rfl
  rw [FindRequest.plan?, FindRequest.plan?, List.foldlM_append, List.foldlM_append]
  cases before.foldlM Plan.refine? Plan.all with
  | none => rfl
  | some plan =>
    -- A find call is sorted behind its limit, so the steps after the limit must not depend on it either.
    have behind : ∀ step ∈ after, step.isLimit = false :=
      fun step member => unlimited step (List.mem_append_right _ member)
    have later := Plan.foldlM_upTo behind plan (some limit)
    simp only [Option.bind_eq_bind, Option.bind_some, List.foldlM_cons, known]
    exact later

/-! ## Requests that make no sense -/

def Refinement.isSenseless (step : Refinement) : Bool := (Plan.all.refine? step).isNone

theorem Plan.refine?_eq_none_iff {plan : Plan} {step : Refinement} :
    plan.refine? step = none ↔ step.isSenseless = true := by
  unfold Refinement.isSenseless Plan.refine?
  split
  next order => cases readOrder? order <;> simp
  next count => split <;> simp
  next count => split <;> simp
  all_goals simp

def FindRequest.senseless? (request : FindRequest) : Option Refinement :=
  request.refinements.find? Refinement.isSenseless

/-- A request comes to something unless one of its steps makes no sense. -/
theorem plan?_eq_none_iff {request : FindRequest} :
    request.plan? = none ↔ ∃ step, request.senseless? = some step := by
  rw [FindRequest.plan?, FindRequest.senseless?]
  generalize Plan.all = plan
  induction request.refinements generalizing plan with
  | nil => simp
  | cons step steps ih =>
    rw [List.foldlM_cons, List.find?_cons]
    cases refined : plan.refine? step with
    | none =>
      rw [Plan.refine?_eq_none_iff.mp refined]
      exact ⟨fun _ => ⟨step, rfl⟩, fun _ => rfl⟩
    | some later =>
      have sensible : step.isSenseless = false := by
        by_contra senseless
        rw [Plan.refine?_eq_none_iff.mpr ((Bool.not_eq_false _).mp senseless)] at refined
        cases refined
      rw [sensible]
      exact ih later

private theorem senseless?_limited (filter : Value) (limit : Nat) :
    FindRequest.senseless? ⟨filter, before ++ .limit (.int limit) :: after⟩ =
      FindRequest.senseless? ⟨filter, before ++ after⟩ := by
  have sensible : (Refinement.limit (.int limit)).isSenseless = false := by
    simp [Refinement.isSenseless, Plan.refine?]
  simp only [FindRequest.senseless?, List.find?_append, List.find?_cons, sensible]

/-! ## Answers in the standard way -/

/-- A model answers from a collection in the standard way: the documents that match, sorted by the order with
ties as they stand in the collection, without those that are skipped, up to the limit; a count stops at its
limit. A request with a step that makes no sense is refused for the first such step. -/
structure AnswersStably (collection : Collection) (complaint : Refinement → String) (model : Model) :
    Prop where
  find (request : FindRequest) (plan : Plan) (planned : request.plan? = some plan) :
    (model.find request).ending = .returns (plan.cut (collection.sorted request.filter plan.order))
  refuse (request : FindRequest) (step : Refinement) (senseless : request.senseless? = some step) :
    (model.find request).ending = .raises (complaint step)
  count (filter : Value) :
    (model.count ⟨filter, none⟩).ending = .returns (.int (collection.matching filter).length)
  countUpTo (filter : Value) (limit : Nat) :
    (model.count ⟨filter, some limit⟩).ending =
      .returns (.int (min limit (collection.matching filter).length))

variable {collection : Collection} {complaint : Refinement → String} {model : Model}

theorem Collection.sortingModel_answersStably (collection : Collection) (name : String) :
    AnswersStably collection (fun _ => "unknown request") (collection.sortingModel name) where
  find request plan planned := by
    simp only [sortingModel, planned]
    rfl
  refuse request step senseless := by
    have unknown := plan?_eq_none_iff.mpr ⟨step, senseless⟩
    simp only [sortingModel, unknown]
  count filter := rfl
  countUpTo filter limit := rfl

private theorem Plan.cut_upTo {plan : Plan} (unlimited : plan.limit = none) (limit : Nat) (documents : List Value) :
    (plan.upTo (some limit)).cut documents = (plan.cut documents).take limit := by
  rw [Plan.cut, Plan.cut, unlimited]
  rfl

private theorem AnswersStably.outcome_limited (answers : AnswersStably collection complaint model)
    (unlimited : ∀ step ∈ before ++ after, step.isLimit = false) (filter : Value) (limit : Nat) :
    (model.find ⟨filter, before ++ .limit (.int limit) :: after⟩).outcome =
      (model.find ⟨filter, before ++ after⟩).outcome.map (List.take limit) := by
  rw [Behaviour.outcome, Behaviour.outcome]
  cases planned : FindRequest.plan? ⟨filter, before ++ after⟩ with
  | some plan =>
    have limited := plan?_limited unlimited filter limit
    rw [planned] at limited
    rw [answers.find _ _ planned, answers.find _ _ limited, Plan.cut_upTo (plan?_unlimited unlimited planned)]
    rfl
  | none =>
    obtain ⟨step, senseless⟩ := plan?_eq_none_iff.mp planned
    have refused := (senseless?_limited filter limit).trans senseless
    rw [answers.refuse _ _ senseless, answers.refuse _ _ refused]
    rfl

/-! ## Shortcuts -/

variable {collector : Collector} {filter scope confined : Value}

def startSteps (options : FindOptions) : List Refinement :=
  .lean :: (options.populate.elim [] fun relations => [Refinement.populate (populateSpec relations)]) ++
    optionStep .select options.select ++ optionStep .skip options.skip

def endSteps (identityField order : Value) : List Refinement × Except CollectError Unit :=
  match order with
  | .null => ([], .ok ())
  | order => match sortStep identityField order with
    | .ok step => ([step], .ok ())
    | .error problem => ([], .error problem)

theorem endSteps_of_given {identityField order : Value} (given : order ≠ .null) :
    endSteps identityField order = match sortStep identityField order with
      | .ok step => ([step], .ok ())
      | .error problem => ([], .error problem) := by
  unfold endSteps
  split
  next => exact absurd rfl given
  next => rfl

private theorem allRequest_eq (collector : Collector) (options : FindOptions) (confined : Value) :
    collector.allRequest options confined =
      (⟨confined, startSteps options ++ optionStep .limit options.limit ++
        (endSteps collector.identityField options.sort).1⟩,
        (endSteps collector.identityField options.sort).2) := by
  unfold allRequest
  split
  next unsorted =>
    rw [unsorted, endSteps, List.append_nil]
    rfl
  next given =>
    rw [endSteps_of_given given]
    cases sortStep collector.identityField options.sort with
    | ok step => rfl
    | error problem => simp only [List.append_nil]; rfl

theorem isLimit_of_mem_optionStep {make : Value → Refinement} (other : ∀ value, (make value).isLimit = false)
    (value : Value) : ∀ step ∈ optionStep make value, step.isLimit = false := by
  unfold optionStep
  split
  next => exact List.forall_mem_nil _
  next => exact List.forall_mem_singleton.mpr (other _)

private theorem isLimit_of_mem_endSteps (identityField order : Value) :
    ∀ step ∈ (endSteps identityField order).1, step.isLimit = false := by
  by_cases given : order = .null
  · rw [given]
    exact List.forall_mem_nil _
  · rw [endSteps_of_given given, sortStep]
    cases withTieBreak identityField order with
    | ok order => exact List.forall_mem_singleton.mpr rfl
    | error problem => exact List.forall_mem_nil _

private theorem unlimited_steps (options : FindOptions) (identityField : Value) :
    ∀ step ∈ startSteps options ++ (endSteps identityField options.sort).1, step.isLimit = false := by
  have loading : ∀ step ∈ options.populate.elim [] fun relations => [Refinement.populate (populateSpec relations)],
      step.isLimit = false := by
    cases options.populate with
    | none => exact List.forall_mem_nil _
    | some relations => exact List.forall_mem_singleton.mpr rfl
  rw [startSteps]
  simp only [List.forall_mem_append, List.forall_mem_cons]
  exact ⟨⟨⟨⟨rfl, loading⟩, isLimit_of_mem_optionStep (fun _ => rfl) _⟩,
    isLimit_of_mem_optionStep (fun _ => rfl) _⟩, isLimit_of_mem_endSteps identityField options.sort⟩

private theorem FindOptions.hasOverlong_limited {limit : Int} (short : ¬Number.IsOverlong limit)
    (options : FindOptions) :
    FindOptions.HasOverlong { options with limit := .int limit } ↔
      FindOptions.HasOverlong { options with limit := .null } := by
  have null : ¬Value.null.HoldsOverlong := by simp [Value.holdsOverlong_atom, Atom.IsOverlong]
  have number : ¬(Value.int limit).HoldsOverlong := mt Value.holdsOverlong_int.mp short
  simp only [HasOverlong, null, number]

/-- The outcome of a request for all documents that can be put into words. -/
theorem findAll_outcome (options : FindOptions) (within : scopedFilter filter scope = .ok confined)
    (short : ¬AllOverlong filter scope options) :
    (collector.findAll filter scope options).outcome =
      match collector.allRequest options confined with
      | (_, .error problem) => .error problem
      | (request, .ok ()) => (collector.model.find request).outcome := by
  obtain ⟨line, told⟩ := exists_allLine within short
  simp only [findAll, withinScope, within, told, announced]
  rcases collector.allRequest options confined with ⟨request, problem | ⟨⟩⟩
  · rfl
  · rfl

/-- Whatever else is asked for, a limit cuts what is found without it. -/
theorem findAll_limited (answers : AnswersStably collection complaint collector.model) (options : FindOptions)
    {limit : Nat} (small : ¬Number.IsOverlong limit) :
    (collector.findAll filter scope { options with limit := .int limit }).outcome =
      (collector.findAll filter scope { options with limit := .null }).outcome.map (List.take limit) := by
  cases within : scopedFilter filter scope with
  | error problem =>
    rw [findAll, findAll, withinScope_error within, withinScope_error within]
    rfl
  | ok confined =>
    have same : AllOverlong filter scope { options with limit := .int limit } ↔
        AllOverlong filter scope { options with limit := .null } :=
      or_congr_right (or_congr_right (FindOptions.hasOverlong_limited small options))
    by_cases overlong : AllOverlong filter scope { options with limit := .null }
    · rw [findAll_of_overlong within overlong, findAll_of_overlong within (same.mpr overlong)]
      rfl
    have limited := answers.outcome_limited (unlimited_steps options collector.identityField) confined limit
    have none : startSteps options ++ optionStep .limit .null ++ (endSteps collector.identityField options.sort).1 =
        startSteps options ++ (endSteps collector.identityField options.sort).1 :=
      congrArg (· ++ _) (List.append_nil _)
    have some : startSteps options ++ optionStep .limit (.int limit) ++
        (endSteps collector.identityField options.sort).1 =
        startSteps options ++ .limit (.int limit) :: (endSteps collector.identityField options.sort).1 :=
      List.append_assoc ..
    rw [← none, ← some] at limited
    rw [findAll_outcome _ within overlong, findAll_outcome _ within (mt same.mp overlong)]
    simp only [allRequest_eq]
    -- An order that cannot be read fails only after the model was asked, with and without a limit.
    cases (endSteps collector.identityField options.sort).2 with
    | error problem => rfl
    | ok => exact limited

private theorem Collection.sorted_unordered (collection : Collection) (filter : Value) :
    collection.sorted filter [] = collection.matching filter :=
  List.mergeSort_of_pairwise (List.pairwise_of_forall fun _ _ => rfl)

theorem findAll_unrestricted (answers : AnswersStably collection complaint collector.model)
    (within : scopedFilter filter scope = .ok confined) (short : ¬AllOverlong filter scope {}) :
    (collector.findAll filter scope {}).outcome = .ok (collection.matching confined) := by
  have found := answers.find ⟨confined, [.lean]⟩ Plan.all rfl
  rw [findAll_outcome {} within short]
  show (collector.model.find ⟨confined, [.lean]⟩).outcome = _
  rw [Behaviour.outcome, found, ← collection.sorted_unordered]
  rfl

theorem count_outcome (answers : AnswersStably collection complaint collector.model)
    (within : scopedFilter filter scope = .ok confined) :
    (collector.count filter scope).outcome = .ok (.int (collection.matching confined).length) := by
  rw [count, withinScope_ok within, runCount, Behaviour.outcome, answers.count]

theorem exists_outcome (answers : AnswersStably collection complaint collector.model)
    (within : scopedFilter filter scope = .ok confined) :
    (collector.exists? filter scope).outcome = .ok !(collection.matching confined).isEmpty := by
  have counted : (collector.model.count ⟨confined, some 1⟩).outcome =
      .ok (.int (min 1 (collection.matching confined).length)) := by
    have upTo : (collector.model.count ⟨confined, some 1⟩).ending =
        .returns (.int (min 1 (collection.matching confined).length)) := answers.countUpTo confined 1
    rw [Behaviour.outcome, upTo]
  rw [exists?, withinScope_ok within]
  show (collector.model.count ⟨confined, some 1⟩).outcome.bind isPositive = _
  rw [counted]
  show (.ok (decide (0 < min 1 ((collection.matching confined).length : Int))) : Except CollectError Bool) = _
  cases collection.matching confined with
  | nil => rfl
  | cons document documents =>
    have some : 0 < min 1 ((document :: documents).length : Int) := by
      rw [List.length_cons]
      omega
    rw [decide_eq_true some]
    rfl

private theorem count_eq_findAll (answers : AnswersStably collection complaint collector.model)
    (short : ¬AllOverlong filter scope {}) : (collector.count filter scope).outcome =
      (collector.findAll filter scope {}).outcome.map fun documents => .int documents.length := by
  cases within : scopedFilter filter scope with
  | error problem =>
    rw [count, findAll, withinScope_error within, withinScope_error within]
    rfl
  | ok confined =>
    rw [count_outcome answers within, findAll_unrestricted answers within short]
    rfl

private theorem exists_eq_findAll (answers : AnswersStably collection complaint collector.model)
    (short : ¬AllOverlong filter scope {}) : (collector.exists? filter scope).outcome =
      (collector.findAll filter scope {}).outcome.map fun documents => !documents.isEmpty := by
  cases within : scopedFilter filter scope with
  | error problem =>
    rw [exists?, findAll, withinScope_error within, withinScope_error within]
    rfl
  | ok confined =>
    rw [exists_outcome answers within, findAll_unrestricted answers within short]
    rfl

theorem findOne_outcome (answers : AnswersStably collection complaint collector.model) (options : FindOptions) :
    (collector.findOne filter scope options).outcome =
      (collector.findAll filter scope { options with limit := .null }).outcome.map
        fun documents => documents.headD .null := by
  show (collector.findAll filter scope { options with limit := .int (1 : Nat) }).outcome.map _ = _
  have one : ¬Number.IsOverlong (1 : Nat) := Number.not_isOverlong_of_lt (by decide)
  rw [findAll_limited answers options one]
  cases (collector.findAll filter scope { options with limit := .null }).outcome with
  | error problem => rfl
  | ok documents => cases documents <;> rfl

/-- What the shortcuts of a collector say of the documents that are found: whether there is one, how many
there are, the first of them, and the first few of them. Documents are not found where a number in the filter, its
scope or the options has too many digits; whether there are any, and how many, is told even then. -/
theorem shortcuts_agree (collection : Collection) (complaint : Refinement → String) (collector : Collector)
    (answers : AnswersStably collection complaint collector.model)
    (documented : ∀ document ∈ collection.documents, document ≠ .null)
    (target : CountTarget) (scope : Value) :
    let filter := target.filterOf
    let all (options : FindOptions) := (collector.findAll filter scope options).outcome
    (∀ options, IsScope scope → AllOverlong filter scope options → all options = .error .overlong) ∧
    (¬AllOverlong filter scope {} →
      (collector.exists? filter scope).outcome = (all {}).map (fun documents => !documents.isEmpty) ∧
      (collector.countOf target scope).outcome = (all {}).map (fun documents => .int documents.length)) ∧
    (∀ options, (collector.findOne filter scope options).outcome =
      (all { options with limit := .null }).map fun documents => documents.headD .null) ∧
    (∀ (limit : Nat) (populate : Option (List Relation)),
      (¬Number.IsOverlong limit → (collector.findWithLimit filter (.int limit) scope populate).outcome =
        (all { populate := populate }).map (List.take limit)) ∧
      (Number.IsOverlong limit → IsScope scope →
        (collector.findWithLimit filter (.int limit) scope populate).outcome = .error .overlong)) ∧
    (IsScope scope → ∃ found, ∃ total : Int,
      (collector.exists? filter scope).outcome = .ok found ∧
      (collector.countOf target scope).outcome = .ok (.int total) ∧ (found = true ↔ 0 < total) ∧
      (¬AllOverlong filter scope {} → ∃ documents document, all {} = .ok documents ∧
        (collector.findOne filter scope {}).outcome = .ok document ∧
        (0 < total ↔ documents ≠ []) ∧ (documents ≠ [] ↔ document ≠ .null))) := by
  intro filter all
  have refused (options : FindOptions) (valid : IsScope scope) (overlong : AllOverlong filter scope options) :
      all options = .error .overlong := by
    obtain ⟨confined, within⟩ := exists_scopedFilter filter valid
    exact congrArg Run.outcome (findAll_of_overlong within overlong)
  refine ⟨refused, fun short => ⟨exists_eq_findAll answers short, count_eq_findAll answers short⟩,
    findOne_outcome answers,
    fun limit populate => ⟨fun small => findAll_limited answers { populate := populate } small,
      fun large valid => ?_⟩, fun valid => ?_⟩
  · exact refused { limit := .int limit, populate := populate } valid
      (.inr (.inr (.inl (Value.holdsOverlong_int.mpr large))))
  obtain ⟨confined, within⟩ := exists_scopedFilter filter valid
  refine ⟨!(collection.matching confined).isEmpty, (collection.matching confined).length,
    exists_outcome answers within, count_outcome answers within, ?_, fun short => ?_⟩
  · cases collection.matching confined <;> simp
  have here : all {} = .ok (collection.matching confined) := findAll_unrestricted answers within short
  have first : (collector.findOne filter scope {}).outcome =
      (all {}).map fun documents => documents.headD .null := findOne_outcome answers {}
  rw [first, here]
  cases matching : collection.matching confined with
  | nil => exact ⟨[], .null, rfl, rfl, by simp⟩
  | cons document documents =>
    have member : document ∈ collection.matching confined := by
      rw [matching]
      exact List.mem_cons_self ..
    have given := documented document (List.mem_filter.mp member).1
    exact ⟨document :: documents, document, rfl, rfl, by simp, by simp [given]⟩

private theorem rankings_found :
    (Collector.findAll ⟨rankings.sortingModel "rankings", .text "_id"⟩ (.map [(.text "rank", .int 1)]) .null
      {}).outcome = .ok [ranked 1 7, ranked 1 5, ranked 1 6] := by
  have answers := rankings.sortingModel_answersStably "rankings"
  have one : ¬Number.IsOverlong 1 := Number.not_isOverlong_of_lt (by decide)
  have short : ¬AllOverlong (.map [(.text "rank", .int 1)]) .null {} := by
    simp [AllOverlong, one, FindOptions.HasOverlong, Value.holdsOverlong_map, Value.holdsOverlong_atom,
      Atom.IsOverlong]
  rw [findAll_unrestricted answers (by rfl) short]
  rfl

/-- Three of four documents match. The second of them by rank and number is found whatever limit was asked
for beside the shortcut. -/
theorem shortcuts_agree_ties :
    let collector : Collector := ⟨rankings.sortingModel "rankings", .text "_id"⟩
    let filter : Value := .map [(.text "rank", .int 1)]
    let options : FindOptions :=
      { limit := .int 0, skip := .int 1, sort := SortOrder.toValue [(.text "rank", .descending)] }
    AnswersStably rankings (fun _ => "unknown request") collector.model ∧
      (∀ document ∈ rankings.documents, document ≠ .null) ∧ IsScope .null ∧
      (collector.findAll filter .null {}).outcome = .ok [ranked 1 7, ranked 1 5, ranked 1 6] ∧
      (collector.findOne filter .null options).outcome = .ok (ranked 1 6) ∧
      (collector.findWithLimit filter (.int 2) .null none).outcome = .ok [ranked 1 7, ranked 1 5] ∧
      (collector.countOf (.bare filter) .null).outcome = .ok (.int 3) ∧
      (collector.exists? filter .null).outcome = .ok true := by
  intro collector filter options
  have answers : AnswersStably rankings (fun _ => "unknown request") collector.model :=
    rankings.sortingModel_answersStably "rankings"
  have documented : ∀ document ∈ rankings.documents, document ≠ .null := by
    simp [rankings, ranked]
  obtain ⟨-, plain, first, limited, -⟩ :=
    shortcuts_agree rankings _ collector answers documented (.bare filter) .null
  have within : scopedFilter filter .null = .ok filter := rfl
  have one : ¬Number.IsOverlong 1 := Number.not_isOverlong_of_lt (by decide)
  have short : ¬AllOverlong filter .null {} := by
    simp [AllOverlong, filter, one, FindOptions.HasOverlong, Value.holdsOverlong_map, Value.holdsOverlong_atom,
      Atom.IsOverlong]
  obtain ⟨existence, counted⟩ := plain short
  have all : (collector.findAll filter .null {}).outcome = .ok [ranked 1 7, ranked 1 5, ranked 1 6] :=
    rankings_found
  have ordered : (collector.findAll filter .null { options with limit := .null }).outcome =
      .ok [ranked 1 6, ranked 1 7] := by
    let plan : Plan := ⟨[(.text "rank", .descending), (.text "_id", .ascending)], 1, none⟩
    let steps := startSteps options ++ [.sort plan.order.toValue]
    have identified : rankings.Identified "_id" := by
      simp only [Collection.Identified, rankings]
      decide
    have matched : ([ranked 1 5, ranked 1 6] ++ [ranked 1 7]).Perm (rankings.matching filter) :=
      List.perm_append_comm
    have ascending : [ranked 1 5, ranked 1 6, ranked 1 7].Pairwise fun first second =>
        (rankings.compareBy (tieBroken "_id" [(.text "rank", .descending)]) first second).isLE := by decide
    have sorted : [ranked 1 5, ranked 1 6, ranked 1 7] = rankings.sorted filter plan.order :=
      identified.eq_sorted matched ascending
    have returned := answers.find ⟨filter, steps⟩ plan rfl
    rw [← sorted] at returned
    have written : ¬AllOverlong filter .null { options with limit := .null } := by
      simp [AllOverlong, filter, options, one, FindOptions.HasOverlong, SortOrder.toValue, Value.holdsOverlong_map,
        Value.holdsOverlong_atom, Atom.IsOverlong]
    rw [findAll_outcome _ within written]
    show (collector.model.find ⟨filter, steps⟩).outcome = _
    rw [Behaviour.outcome, returned]
    rfl
  have single := first options
  have two := (limited 2 none).1 (Number.not_isOverlong_of_lt (by decide))
  simp only [CountTarget.filterOf] at existence counted single two
  rw [all] at existence counted two
  rw [ordered] at single
  exact ⟨answers, documented, .none, all, single, two, counted, existence⟩

/-- Three documents match, but none is among the first so many that the number cannot be written. -/
theorem overlong_limit_finds_nothing :
    let collector : Collector := ⟨rankings.sortingModel "rankings", .text "_id"⟩
    let filter : Value := .map [(.text "rank", .int 1)]
    let limit := Number.leastOverlong
    AnswersStably rankings (fun _ => "unknown request") collector.model ∧ 0 ≤ limit ∧
      (collector.findAll filter .null {}).outcome = .ok [ranked 1 7, ranked 1 5, ranked 1 6] ∧
      (collector.findWithLimit filter (.int limit) .null none).outcome = .error .overlong := by
  intro collector filter limit
  have answers : AnswersStably rankings (fun _ => "unknown request") collector.model :=
    rankings.sortingModel_answersStably "rankings"
  have within : scopedFilter filter .null = .ok filter := rfl
  have long : AllOverlong filter .null { limit := .int limit } :=
    .inr (.inr (.inl (Value.holdsOverlong_int.mpr Number.isOverlong_leastOverlong)))
  exact ⟨answers, Int.le_of_lt Number.leastOverlong_pos, rankings_found,
    congrArg Run.outcome (findAll_of_overlong within long)⟩

end QueryGate.Collector
