import QueryGate.Proofs.Collector.PageCalls
/-!
Models that answer from a fixed collection. A collection says which documents match a filter and how two
documents compare in a field. A model answers from it if a find request gets the matching documents in an
order that the request allows, without those that it skips and cut to its limit, and a count request gets
their number. How ties are resolved, and how long an answer takes, is up to each model.
-/

namespace QueryGate.Collector

open QueryGate.Query

/-! ## Collections -/

/-- Documents, the filters they match, and an order of them for each field. -/
structure Collection where
  documents : List Value
  accepts : Value → Value → Bool
  compare : Atom → Value → Value → Ordering
  ordered (field : Atom) : Std.TransCmp (compare field)

namespace Collection

variable (collection : Collection)

def matching (filter : Value) : List Value := collection.documents.filter (collection.accepts filter)

def compareField (field : Atom) : Direction → Value → Value → Ordering
  | .ascending => collection.compare field
  | .descending => fun first second => collection.compare field second first

def compareBy : SortOrder → Value → Value → Ordering
  | [] => fun _ _ => .eq
  | (field, direction) :: order => compareLex (collection.compareField field direction) (compareBy order)

instance compareField_trans (field : Atom) (direction : Direction) :
    Std.TransCmp (collection.compareField field direction) := by
  have ordered := collection.ordered field
  cases direction with
  | ascending => exact ordered
  | descending =>
    exact inferInstanceAs (Std.TransCmp fun first second => collection.compare field second first)

instance compareBy_trans (order : SortOrder) : Std.TransCmp (collection.compareBy order) := by
  induction order with
  | nil =>
    exact { eq_swap := rfl, isLE_trans := fun _ _ => rfl }
  | cons entry order ih =>
    rcases entry with ⟨field, direction⟩
    exact inferInstanceAs (Std.TransCmp (compareLex _ _))

variable {collection}

theorem compareField_eq_iff {field : Atom} {direction : Direction} {first second : Value} :
    collection.compareField field direction first second = .eq ↔
      collection.compare field first second = .eq := by
  have ordered := collection.ordered field
  cases direction with
  | ascending => rfl
  | descending => exact Std.OrientedCmp.eq_comm

theorem compareBy_eq_iff {order : SortOrder} {first second : Value} :
    collection.compareBy order first second = .eq ↔
      ∀ field ∈ Entries.keys order, collection.compare field first second = .eq := by
  induction order with
  | nil => simp [compareBy, Entries.keys]
  | cons entry order ih =>
    rcases entry with ⟨field, direction⟩
    rw [compareBy, compareLex_eq_eq, compareField_eq_iff, ih]
    simp [Entries.keys]

theorem compareBy_append {order later : SortOrder} {first second : Value} :
    collection.compareBy (order ++ later) first second =
      (collection.compareBy order first second).then (collection.compareBy later first second) := by
  induction order with
  | nil => rfl
  | cons entry order ih =>
    rcases entry with ⟨field, direction⟩
    rw [List.cons_append, compareBy, compareBy, compareLex, compareLex, ih, Ordering.then_assoc]

/-- An order with more fields behind refines the order without them. -/
theorem isLE_of_isLE_append {order later : SortOrder} {first second : Value}
    (ordered : (collection.compareBy (order ++ later) first second).isLE = true) :
    (collection.compareBy order first second).isLE = true := by
  rw [compareBy_append] at ordered
  cases here : collection.compareBy order first second with
  | lt => rfl
  | eq => rfl
  | gt =>
    rw [here] at ordered
    cases ordered

theorem isLE_of_isLE_tieBroken {identity : String} {order : SortOrder} {first second : Value}
    (ordered : (collection.compareBy (tieBroken identity order) first second).isLE = true) :
    (collection.compareBy order first second).isLE = true := by
  rw [tieBroken] at ordered
  split at ordered
  next => exact ordered
  next => exact isLE_of_isLE_append ordered

end Collection

/-! ## What a find request comes to -/

def readDirection? : Value → Option Direction
  | .text name => [.ascending, .descending].find? fun direction => direction.name == name
  | _ => none

def readOrder? : Value → Option SortOrder
  | .map entries => entries.mapM fun entry => (readDirection? entry.2).map fun direction => (entry.1, direction)
  | _ => none

theorem readOrder?_toValue (order : SortOrder) : readOrder? order.toValue = some order := by
  rw [SortOrder.toValue, readOrder?]
  induction order with
  | nil => rfl
  | cons entry order ih =>
    rcases entry with ⟨field, direction⟩
    have known : readDirection? (.text direction.name) = some direction := by cases direction <;> rfl
    rw [List.map_cons, List.mapM_cons, ih, known]
    rfl

/-- What is asked of the documents that match. -/
structure Plan where
  order : SortOrder
  skip : Nat
  limit : Option Nat

namespace Plan

def all : Plan := ⟨[], 0, none⟩

/-- What one step changes. Relations to load and fields to keep do not change which documents there are. -/
def refine? (plan : Plan) : Refinement → Option Plan
  | .sort order => (readOrder? order).map fun order => { plan with order := order }
  | .skip (.int count) => if 0 ≤ count then some { plan with skip := count.toNat } else none
  | .limit (.int count) => if 0 ≤ count then some { plan with limit := some count.toNat } else none
  | .skip _ | .limit _ => none
  | .populate _ | .lean | .select _ => some plan

def cut (plan : Plan) (documents : List Value) : List Value :=
  match plan.limit with
  | none => documents.drop plan.skip
  | some limit => (documents.drop plan.skip).take limit

end Plan

def FindRequest.plan? (request : FindRequest) : Option Plan :=
  request.refinements.foldlM Plan.refine? Plan.all

/-- A model answers from a collection. -/
structure Answers (collection : Collection) (model : Model) : Prop where
  find (request : FindRequest) (plan : Plan) (planned : request.plan? = some plan) :
    ∃ documents, documents.Perm (collection.matching request.filter) ∧
      documents.Pairwise (fun first second => (collection.compareBy plan.order first second).isLE) ∧
      (model.find request).ending = .returns (plan.cut documents)
  count (filter : Value) :
    (model.count ⟨filter, none⟩).ending = .returns (.int (collection.matching filter).length)

/-! ## A model that sorts -/

namespace Collection

variable (collection : Collection)

/-- The matching documents, sorted; what an order does not tell apart stays as it is in the
collection. -/
def sorted (filter : Value) (order : SortOrder) : List Value :=
  (collection.matching filter).mergeSort fun first second =>
    (collection.compareBy order first second).isLE

def sortingModel (name : String) : Model where
  name := name
  find := fun request =>
    match request.plan? with
    | some plan => .immediate (plan.cut (collection.sorted request.filter plan.order))
    | none => ⟨0, .raises "unknown request"⟩
  count := fun request =>
    let total := (collection.matching request.filter).length
    .immediate (.int (match request.limit with
      | none => total
      | some limit => min limit total))
  aggregate := none
  distinct := none

theorem sorted_perm (filter : Value) (order : SortOrder) :
    (collection.sorted filter order).Perm (collection.matching filter) :=
  List.mergeSort_perm _ _

theorem sorted_pairwise (filter : Value) (order : SortOrder) :
    (collection.sorted filter order).Pairwise fun first second =>
      (collection.compareBy order first second).isLE := by
  refine List.pairwise_mergeSort (fun _ _ _ => Std.TransCmp.isLE_trans) (fun first second => ?_) _
  have swapped : collection.compareBy order second first =
      (collection.compareBy order first second).swap := Std.OrientedCmp.eq_swap
  rw [swapped]
  cases collection.compareBy order first second <;> rfl

theorem sortingModel_answers (name : String) : Answers collection (collection.sortingModel name) where
  find := by
    intro request plan planned
    refine ⟨_, collection.sorted_perm request.filter plan.order,
      collection.sorted_pairwise request.filter plan.order, ?_⟩
    simp only [sortingModel, planned]
    rfl
  count := fun filter => rfl

end Collection

end QueryGate.Collector
