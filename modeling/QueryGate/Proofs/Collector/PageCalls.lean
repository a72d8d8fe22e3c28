import QueryGate.Proofs.Collector.Announcing
import QueryGate.Proofs.Collector.TieBreaking
/-!
What a query for a page asks its model for. Once the filter is within its scope, one find request and
one count request go out, with that filter and the steps of the page, and nothing else is handed over.
-/

namespace QueryGate.Collector

open QueryGate.Query

/-! ## Views of calls -/

namespace Call

def foundFilter? : Call → Option Value
  | .find filter => some filter
  | _ => none

def countedFilter? : Call → Option Value
  | .countDocuments filter => some filter
  | _ => none

def skipped? : Call → Option Value
  | .refine (.skip count) => some count
  | _ => none

def limited? : Call → Option Value
  | .refine (.limit count) => some count
  | _ => none

def sortedBy? : Call → Option Value
  | .refine (.sort order) => some order
  | _ => none

end Call

/-! ## Scopes -/

/-- A filter within a scope: both hold, unless the scope has no conditions. -/
def confine (filter scope : Value) : Value :=
  match scope with
  | .map (condition :: conditions) =>
    .map [(.text "$and", .list [filter, .map (condition :: conditions)])]
  | _ => filter

/-- Scopes that confine, and those that stand for none. -/
inductive IsScope : Value → Prop
  | none : IsScope .null
  | conditions (entries : Entries) : IsScope (.map entries)

theorem scopedFilter_of_isScope {filter scope : Value} (given : filter ≠ .null)
    (valid : IsScope scope) : scopedFilter filter scope = .ok (confine filter scope) := by
  have same : givenFilter filter = filter := by
    unfold givenFilter
    split
    next => exact absurd rfl given
    next => rfl
  cases valid with
  | none => exact congrArg Except.ok same
  | conditions entries =>
    cases entries with
    | nil => exact congrArg Except.ok same
    | cons condition conditions =>
      exact congrArg (fun given => Except.ok (bothFilters given (.map (condition :: conditions)))) same

theorem exists_scopedFilter (filter : Value) {scope : Value} (valid : IsScope scope) :
    ∃ confined, scopedFilter filter scope = .ok confined := by
  cases valid with
  | none => exact ⟨_, rfl⟩
  | conditions entries => cases entries <;> exact ⟨_, rfl⟩

theorem scopedFilter_eq_error (filter : Value) {scope : Value} (foreign : ¬IsScope scope) :
    scopedFilter filter scope = .error (.scope scope.typeName) := by
  unfold scopedFilter
  split
  next => exact absurd .none foreign
  next => exact absurd (.conditions []) foreign
  next => exact absurd (.conditions _) foreign
  next => rfl

theorem scopedFilter_of_not_isScope (filter : Value) {scope : Value} (foreign : ¬IsScope scope) :
    ∃ problem, scopedFilter filter scope = .error problem :=
  ⟨_, scopedFilter_eq_error filter foreign⟩

section

variable {α : Type} {filter scope confined : Value} {body : Value → Run α}

theorem withinScope_ok (within : scopedFilter filter scope = .ok confined) :
    withinScope filter scope body = body confined := by
  rw [withinScope, within]

theorem withinScope_error {problem : ParameterError}
    (foreign : scopedFilter filter scope = .error problem) :
    withinScope filter scope body = .refused (.parameter problem) := by
  rw [withinScope, foreign]

end

/-! ## Requests -/

def sorterOf (order : SortOrder) : Value := if order.isEmpty then .null else order.toValue

def orderStep (identity : String) (order : SortOrder) : List Refinement :=
  if order.isEmpty then [] else [.sort (tieBroken identity order).toValue]

variable {collector : Collector} {identity : String} {query : PageQuery} {order : SortOrder}
  {populate : Option (List Relation)} {scope confined : Value}

private theorem pageRequest_eq (declared : collector.identityField = .text identity)
    (sorted : query.sorter = sorterOf order) :
    collector.pageRequest query populate confined =
      (⟨confined, pageSteps query populate ++ orderStep identity order⟩, .ok ()) := by
  rw [pageRequest, sorted, sorterOf, orderStep]
  cases empty : order.isEmpty with
  | true =>
    simp only [↓reduceIte, List.append_nil]
    rfl
  | false =>
    simp only [Bool.false_eq_true, ↓reduceIte, toValue_isVacant, empty, declared, sortStep_toValue]

/-- The calls and the outcome of a query for a page within its scope. -/
theorem find_eq (declared : collector.identityField = .text identity)
    (sorted : query.sorter = sorterOf order) (within : scopedFilter query.filter scope = .ok confined)
    {line : Journal.Line} (told : pageLine? query confined = some line) :
    collector.find query scope populate =
      let request : FindRequest := ⟨confined, pageSteps query populate ++ orderStep identity order⟩
      let total : CountRequest := ⟨confined, none⟩
      let page := collector.model.find request
      let count := collector.model.count total
      ⟨request.calls ++ total.calls ++ joinedCalls page count, [line],
        joinedOutcome query page count⟩ := by
  simp only [find, withinScope, within, told, announced, pageRequest_eq declared sorted]

/-! ## Calls while queries run -/

theorem joinedCalls_filterMap {α : Type} (view : Call → Option α)
    (executed : ∀ side, view (.exec side) = none) (cancelled : ∀ side, view (.cancelled side) = none)
    (page : Behaviour (List Value)) (count : Behaviour Value) :
    (joinedCalls page count).filterMap view = [] := by
  refine List.filterMap_eq_nil_iff.mpr fun call member => ?_
  simp only [joinedCalls, List.cons_append, List.nil_append, List.mem_cons, List.mem_append] at member
  rcases member with rfl | rfl | member | member
  · exact executed .find
  · exact executed .count
  · split at member
    next =>
      split at member
      next => rw [List.mem_singleton.mp member]; exact cancelled .find
      next => cases member
    next => cases member
  · split at member
    next =>
      split at member
      next => rw [List.mem_singleton.mp member]; exact cancelled .count
      next => cases member
    next => cases member

/-- What the calls of a query for a page hand over: one filter to both queries, one place to start, one
size, and an order if there is one. -/
structure Asked (identity : String) (query : PageQuery) (order : SortOrder) (confined : Value)
    (calls : List Call) : Prop where
  found : calls.filterMap Call.foundFilter? = [confined]
  counted : calls.filterMap Call.countedFilter? = [confined]
  skipped : calls.filterMap Call.skipped? = [.int ((query.page - 1) * query.limit)]
  limited : calls.filterMap Call.limited? = [.int query.limit]
  sorted : calls.filterMap Call.sortedBy? =
    if order.isEmpty then [] else [(tieBroken identity order).toValue]

theorem find_asked (declared : collector.identityField = .text identity)
    (sorted : query.sorter = sorterOf order) (within : scopedFilter query.filter scope = .ok confined)
    (short : ¬PageOverlong query scope) :
    Asked identity query order confined (collector.find query scope populate).calls := by
  obtain ⟨line, told⟩ := exists_pageLine within short
  rw [find_eq declared sorted within told]
  have silent {α : Type} (view : Call → Option α) (executed : ∀ side, view (.exec side) = none)
      (cancelled : ∀ side, view (.cancelled side) = none) (page : Behaviour (List Value))
      (count : Behaviour Value) (calls : List Call) :
      (calls ++ joinedCalls page count).filterMap view = calls.filterMap view := by
    rw [List.filterMap_append, joinedCalls_filterMap view executed cancelled, List.append_nil]
  constructor
  all_goals rw [silent _ (fun _ => rfl) fun _ => rfl, orderStep]
  all_goals cases order.isEmpty <;> rfl

end QueryGate.Collector
