import QueryGate.Filter.Canonical
import QueryGate.Proofs.Outcome
import QueryGate.Proofs.Value.Tree
/-!
Filters as parts of others. What the checks and the walk do with a value does not depend on where it stands:
further inside they say the same, and what they reject they reject at the place below. The walk also needs
as much more depth as the value lies deeper.
-/

namespace QueryGate.Filter

open QueryGate.Outcome

variable {entries : Entries}

/-! ## Checks -/

def Rejection.within (outer : Trail) : Rejection → Rejection
  | .flaw problem trail => .flaw problem (trail ++ outer)
  | rejection => rejection

theorem checkScalars_within (trail outer : Trail) (index : Nat) (items : List Value) :
    checkScalars (trail ++ outer) index items =
      (checkScalars trail index items).mapError (.within outer) := by
  induction items generalizing index with
  | nil => rfl
  | cons item items ih =>
    rw [checkScalars, checkScalars]
    split
    next => exact ih (index + 1)
    next => rfl

private theorem textKeys_within (outer : Trail) (entries : Entries) :
    (textKeys entries).mapError (.within outer) = textKeys entries := by
  induction entries with
  | nil => rfl
  | cons entry entries ih =>
    rcases entry with ⟨key, value⟩
    cases key with
    | text name => rw [textKeys, mapError_map, ih]
    | _ => rfl

private theorem comparisonOperators_within (trail outer : Trail) (entries : Entries) :
    comparisonOperators (trail ++ outer) entries =
      (comparisonOperators trail entries).mapError (.within outer) := by
  induction entries with
  | nil => rfl
  | cons entry entries ih =>
    rcases entry with ⟨key, operand⟩
    cases key with
    | text name =>
      rw [comparisonOperators, comparisonOperators]
      split
      next => rfl
      next =>
        split
        next => rw [mapError_map, ih]
        next => rfl
    | _ => rfl

private theorem checkCombination_within (trail outer : Trail) (operators : List Operator) :
    checkCombination (trail ++ outer) operators =
      (checkCombination trail operators).mapError (.within outer) := by
  rw [checkCombination, checkCombination]
  split
  next => rfl
  next => split <;> rfl

private theorem checkForms_within (trail outer : Trail) (forms : List (Form × String)) :
    checkForms (trail ++ outer) forms = (checkForms trail forms).mapError (.within outer) := by
  rw [checkForms, checkForms]
  split <;> rfl

/-- What the checks say about a value they say of it as a part as well. -/
structure Relocates (value : Value) : Prop where
  clause (trail outer : Trail) :
    checkClause (trail ++ outer) value = (checkClause trail value).mapError (.within outer)
  comparison (trail outer : Trail) :
    checkComparison (trail ++ outer) value = (checkComparison trail value).mapError (.within outer)
  clauses (items : List Value) (same : value = .list items) (trail outer : Trail) (index : Nat) :
    checkClauses (trail ++ outer) index items =
      (checkClauses trail index items).mapError (.within outer)

private theorem checkClauses_within {items : List Value} (each : ∀ item ∈ items, Relocates item)
    (trail outer : Trail) (index : Nat) :
    checkClauses (trail ++ outer) index items =
      (checkClauses trail index items).mapError (.within outer) := by
  induction items generalizing index with
  | nil => rfl
  | cons item items ih =>
    have here := (each item (List.mem_cons_self ..)).clause (.index index :: trail) outer
    have later := ih (fun other member => each other (List.mem_cons_of_mem _ member)) (index + 1)
    rw [List.cons_append] at here
    rw [checkClauses, checkClauses, mapError_bind, here, later]

private theorem checkCombinators_within (each : ∀ entry ∈ entries, Relocates entry.2) (trail outer : Trail) :
    checkCombinators (trail ++ outer) entries =
      (checkCombinators trail entries).mapError (.within outer) := by
  induction entries with
  | nil => rfl
  | cons entry entries ih =>
    rcases entry with ⟨key, value⟩
    have later := ih fun other member => each other (List.mem_cons_of_mem _ member)
    have here := (each _ (List.mem_cons_self ..)).clauses
    unfold checkCombinators
    dsimp only
    split
    next => rfl
    next =>
      cases value with
      | list clauses =>
        have inside := here clauses rfl (.key key :: trail) outer 0
        rw [List.cons_append] at inside
        simp only [inside, later, mapError_bind]
      | _ => rfl

private theorem checkFields_within (each : ∀ entry ∈ entries, Relocates entry.2) (trail outer : Trail)
    (forms : List (Form × String)) :
    checkFields (trail ++ outer) forms entries =
      (checkFields trail forms entries).mapError (.within outer) := by
  induction entries generalizing forms with
  | nil => rfl
  | cons entry entries ih =>
    rcases entry with ⟨key, value⟩
    have later forms := ih (fun other member => each other (List.mem_cons_of_mem _ member)) forms
    have here := (each _ (List.mem_cons_self ..)).comparison (.key key :: trail) outer
    rw [List.cons_append] at here
    unfold checkFields
    dsimp only
    split
    next => rfl
    next =>
      cases value with
      | atom leaf =>
        dsimp only
        split
        next => exact later _
        next => rfl
      | list items =>
        have inside := checkScalars_within (.key key :: trail) outer 0 items
        rw [List.cons_append] at inside
        simp only [inside, later, mapError_bind]
      | map fields => simp only [here, later, mapError_bind]

private theorem checkOperands_within (each : ∀ entry ∈ entries, Relocates entry.2) (trail outer : Trail) :
    checkOperands (trail ++ outer) entries =
      (checkOperands trail entries).mapError (.within outer) := by
  induction entries with
  | nil => rfl
  | cons entry entries ih =>
    rcases entry with ⟨key, operand⟩
    have later := ih fun other member => each other (List.mem_cons_of_mem _ member)
    have here := each _ (List.mem_cons_self ..)
    have clause := here.clause (.key key :: trail) outer
    have comparison := here.comparison (.key key :: trail) outer
    rw [List.cons_append] at clause comparison
    unfold checkOperands
    dsimp only
    split
    next => rfl
    next operator found =>
      split
      next => rfl
      next =>
        split
        next items _ _ =>
          have inside := checkScalars_within (.key key :: trail) outer 0 items
          rw [List.cons_append] at inside
          simp only [inside, later, mapError_bind]
        next => simp only [comparison, later, mapError_bind]
        next => simp only [clause, later, mapError_bind]
        next => exact later

theorem relocates (value : Value) : Relocates value := by
  induction value using Value.treeInduction with
  | atom leaf => exact ⟨fun _ _ => rfl, fun _ _ => rfl, nofun⟩
  | list items ih =>
    refine ⟨fun _ _ => rfl, fun _ _ => rfl, ?_⟩
    rintro others same trail outer index
    rw [← Value.list.inj same]
    exact checkClauses_within ih trail outer index
  | map entries ih =>
    constructor
    · intro trail outer
      rw [checkClause, checkClause, mapError_bind, textKeys_within]
      congr 1
      funext keys
      dsimp only
      split
      next => rfl
      next =>
        split
        next => exact checkCombinators_within ih trail outer
        next => simp only [mapError_bind, checkFields_within ih, checkForms_within]
    · intro trail outer
      simp only [checkComparison, mapError_bind, comparisonOperators_within,
        checkCombination_within, checkOperands_within ih]
    · nofun

/-! ## Walks -/

/-- A rejection by the walk of a part, for the whole that the part stands in and a depth limit that is
larger by so much. -/
def Rejection.deeper (outer : Trail) (more : Nat) : Rejection → Rejection
  | .flaw (.tooDeep (.int limit)) trail => .flaw (.tooDeep (.int (limit + more))) (trail ++ outer)
  | rejection => rejection.within outer

section Walks

variable {registry : Registry} {limit : Int} {depth : Nat} (more : Nat) {trail outer : Trail}
  {date : Option String}

theorem checkDepth_deeper :
    checkDepth (.int (limit + more)) (depth + more) (trail ++ outer) =
      (checkDepth (.int limit) depth trail).mapError (.deeper outer more) := by
  rw [checkDepth_int, checkDepth_int]
  by_cases deep : limit ≤ depth
  · rw [if_pos deep, if_pos (by omega)]
    rfl
  · rw [if_neg deep, if_neg (by omega)]
    rfl

private theorem canonicalLeaf_deeper (leaf : Atom) :
    canonicalLeaf date (trail ++ outer) leaf =
      (canonicalLeaf date trail leaf).mapError (.deeper outer more) := by
  cases date with
  | none => rfl
  | some name =>
    rw [canonicalLeaf, canonicalLeaf, canonicalDate, canonicalDate]
    split <;> rfl

private theorem canonicalKey_deeper (taken : List Atom) (key : Atom) :
    canonicalKey registry (trail ++ outer) date taken key =
      (canonicalKey registry trail date taken key).mapError (.deeper outer more) := by
  cases key with
  | text name =>
    rw [canonicalKey, canonicalKey]
    split
    next => split <;> rfl
    next =>
      split
      next => rfl
      next =>
        split
        next => rfl
        next => split <;> rfl
  | _ => rfl

private theorem canonicalItems_deeper {items : List Value}
    (each : ∀ item ∈ items, ∀ trail,
      canonicalNode registry (.int (limit + more)) (depth + more) (trail ++ outer) date item =
        (canonicalNode registry (.int limit) depth trail date item).mapError (.deeper outer more))
    (index : Nat) :
    canonicalItems registry (.int (limit + more)) (depth + more) (trail ++ outer) date index items =
      (canonicalItems registry (.int limit) depth trail date index items).mapError
        (.deeper outer more) := by
  induction items generalizing index with
  | nil => rfl
  | cons item items ih =>
    have here := each item (List.mem_cons_self ..) (.index index :: trail)
    have later := ih (fun other member => each other (List.mem_cons_of_mem _ member)) (index + 1)
    rw [List.cons_append] at here
    simp only [canonicalItems, mapError_bind, here, later]
    rfl

private theorem canonicalEntries_deeper
    (each : ∀ entry ∈ entries, ∀ trail date,
      canonicalNode registry (.int (limit + more)) (depth + more) (trail ++ outer) date entry.2 =
        (canonicalNode registry (.int limit) depth trail date entry.2).mapError (.deeper outer more))
    (taken : List Atom) :
    canonicalEntries registry (.int (limit + more)) (depth + more) (trail ++ outer) date taken entries =
      (canonicalEntries registry (.int limit) depth trail date taken entries).mapError
        (.deeper outer more) := by
  induction entries generalizing taken with
  | nil => rfl
  | cons entry entries ih =>
    rcases entry with ⟨key, item⟩
    have here canonical below := each _ (List.mem_cons_self ..) (.key canonical :: trail) below
    have later taken := ih (fun other member => each other (List.mem_cons_of_mem _ member)) taken
    simp only [List.cons_append] at here
    simp only [canonicalEntries, mapError_bind, canonicalKey_deeper more, here, later]
    rfl

end Walks

/-- With as much more depth around a node as the limit allows more, the walk says the same of it. -/
theorem canonicalNode_deeper (registry : Registry) (limit : Int) (depth more : Nat) (trail outer : Trail)
    (date : Option String) (value : Value) :
    canonicalNode registry (.int (limit + more)) (depth + more) (trail ++ outer) date value =
      (canonicalNode registry (.int limit) depth trail date value).mapError (.deeper outer more) := by
  induction value using Value.treeInduction generalizing depth trail date with
  | atom leaf =>
    rw [canonicalNode, canonicalNode]
    exact canonicalLeaf_deeper more leaf
  | list items ih =>
    have walked : canonicalItems registry (.int (limit + more)) (depth + 1 + more) (trail ++ outer) date 0
          items =
        (canonicalItems registry (.int limit) (depth + 1) trail date 0 items).mapError
          (.deeper outer more) :=
      canonicalItems_deeper more (fun item member trail => ih item member (depth + 1) trail date) 0
    rw [Nat.add_right_comm] at walked
    simp only [canonicalNode, mapError_bind, checkDepth_deeper, walked]
    rfl
  | map entries ih =>
    have walked : canonicalEntries registry (.int (limit + more)) (depth + 1 + more) (trail ++ outer) date []
          entries =
        (canonicalEntries registry (.int limit) (depth + 1) trail date [] entries).mapError
          (.deeper outer more) :=
      canonicalEntries_deeper more
        (fun entry member trail date => ih entry member (depth + 1) trail date) []
    rw [Nat.add_right_comm] at walked
    simp only [canonicalNode, mapError_bind, checkDepth_deeper, walked]
    rfl

end QueryGate.Filter
