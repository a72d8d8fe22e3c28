import QueryGate.Proofs.Filter.Decision
import QueryGate.Proofs.Filter.Rebuilding
/-!
Numbers that are not finite. Every leaf that the grammar looks at is a finite number or no number at all.
What it does not look at are the maps that an ordering operator takes as they are: they are the only places
in a parsed filter where a number may be infinite, or none.
-/

namespace QueryGate.Filter

/-! ## Finite values -/

/-- Every number in a value is finite, except in the values that are exempt at their keys. -/
inductive FiniteExcept (exempt : Atom → Value → Prop) : Value → Prop
  | atom {leaf : Atom} (finite : ∀ number, leaf = .float number → number.isFinite = true) :
      FiniteExcept exempt (.atom leaf)
  | list {items : List Value} (each : ∀ item ∈ items, FiniteExcept exempt item) :
      FiniteExcept exempt (.list items)
  | map {entries : Entries}
      (each : ∀ entry ∈ entries, ¬exempt entry.1 entry.2 → FiniteExcept exempt entry.2) :
      FiniteExcept exempt (.map entries)

def HasFiniteNumbers : Value → Prop := FiniteExcept fun _ _ => False

theorem hasFiniteNumbers_float {number : Double} :
    HasFiniteNumbers (.atom (.float number)) ↔ number.isFinite = true :=
  ⟨fun | .atom finite => finite number rfl, fun finite => .atom fun _ same => Atom.float.inj same ▸ finite⟩

theorem hasFiniteNumbers_map {entries : Entries} :
    HasFiniteNumbers (.map entries) ↔ ∀ entry ∈ entries, HasFiniteNumbers entry.2 :=
  ⟨fun | .map each => fun entry member => each entry member id,
    fun each => .map fun entry member _ => each entry member⟩

def orderingOperators : List Operator := [.gt, .gte, .lt, .lte]

/-- A map that values are to be ordered against. -/
def OrderedMap (key : Atom) (operand : Value) : Prop :=
  isMap operand = true ∧ ∃ operator ∈ orderingOperators, key = .text operator.key

variable {exempt : Atom → Value → Prop} {trail : Trail} {entries : Entries}

private theorem FiniteExcept.of_number {value : Value} (number : Number value) : FiniteExcept exempt value := by
  cases number with
  | int number => exact .atom (fun _ same => by cases same)
  | float number finite => exact .atom (fun _ same => by rwa [← Atom.float.inj same])

theorem FiniteExcept.of_scalar {value : Value} (scalar : Scalar value) : FiniteExcept exempt value := by
  cases scalar with
  | number number => exact .of_number number
  | _ => exact .atom (fun _ same => by cases same)

theorem FiniteExcept.of_scalarList {value : Value} (scalars : ScalarList value) :
    FiniteExcept exempt value := by
  obtain ⟨each⟩ := scalars
  exact .list fun item member => .of_scalar (each item member)

/-! ## Checks that pass -/

private theorem checkCombinators_ok (passed : checkCombinators trail entries = .ok ()) {entry : Atom × Value}
    (member : entry ∈ entries) :
    ∃ clauses trail, entry.2 = .list clauses ∧ checkClauses trail 0 clauses = .ok () := by
  induction entries with
  | nil => cases member
  | cons first entries ih =>
    rcases first with ⟨key, value⟩
    unfold checkCombinators at passed
    dsimp only at passed
    split at passed
    next => cases passed
    next =>
      split at passed
      next clauses =>
        obtain ⟨_, here, later⟩ := Outcome.bind_eq_ok.mp passed
        rcases List.mem_cons.mp member with rfl | member
        · exact ⟨clauses, _, rfl, here⟩
        · exact ih later member
      next => cases passed

private theorem checkClauses_ok {index : Nat} {items : List Value}
    (passed : checkClauses trail index items = .ok ()) {item : Value} (member : item ∈ items) :
    ∃ trail, checkClause trail item = .ok () := by
  induction items generalizing index with
  | nil => cases member
  | cons first items ih =>
    rw [checkClauses] at passed
    obtain ⟨_, here, later⟩ := Outcome.bind_eq_ok.mp passed
    rcases List.mem_cons.mp member with rfl | member
    · exact ⟨_, here⟩
    · exact ih later member

private theorem checkFields_ok {forms noted : List (Form × String)}
    (passed : checkFields trail forms entries = .ok noted) {entry : Atom × Value}
    (member : entry ∈ entries) :
    Scalar entry.2 ∨ ScalarList entry.2 ∨ ∃ trail, checkComparison trail entry.2 = .ok () := by
  induction entries generalizing forms with
  | nil => cases member
  | cons first entries ih =>
    rcases first with ⟨key, value⟩
    unfold checkFields at passed
    dsimp only at passed
    split at passed
    next => cases passed
    next =>
      split at passed
      next leaf =>
        split at passed
        next scalar =>
          rcases List.mem_cons.mp member with rfl | member
          · exact .inl (isScalar_iff.mp scalar)
          · exact ih passed member
        next => cases passed
      next items =>
        obtain ⟨_, here, later⟩ := Outcome.bind_eq_ok.mp passed
        rcases List.mem_cons.mp member with rfl | member
        · exact .inr (.inl ((checkList_decides _ items).eq_ok_iff.mp here))
        · exact ih later member
      next =>
        obtain ⟨_, here, later⟩ := Outcome.bind_eq_ok.mp passed
        rcases List.mem_cons.mp member with rfl | member
        · exact .inr (.inr ⟨_, here⟩)
        · exact ih later member

private theorem comparisonOperators_ok {operators : List Operator}
    (passed : comparisonOperators trail entries = .ok operators) {entry : Atom × Value}
    (member : entry ∈ entries) : ComparisonKey entry.1 := by
  induction entries generalizing operators with
  | nil => cases member
  | cons first entries ih =>
    rcases first with ⟨key, operand⟩
    cases key with
    | text name =>
      rw [comparisonOperators] at passed
      split at passed
      next => cases passed
      next =>
        split at passed
        next operator kept =>
          obtain ⟨_, later, -⟩ := Outcome.map_eq_ok.mp passed
          rcases List.mem_cons.mp member with rfl | member
          · exact comparisonKey_iff.mpr ⟨operator, kept⟩
          · exact ih later member
        next => cases passed
    | _ => cases passed

private theorem checkOperands_ok (keys : ∀ entry ∈ entries, ComparisonKey entry.1)
    (passed : checkOperands trail entries = .ok ()) {entry : Atom × Value} (member : entry ∈ entries) :
    ∃ operator trail, entry.1 = .text operator.key ∧
      checkOperand trail operator entry.2 = .ok () := by
  induction entries with
  | nil => cases member
  | cons first entries ih =>
    rcases first with ⟨key, operand⟩
    obtain ⟨operator, -, same⟩ := keys _ (List.mem_cons_self ..)
    obtain rfl : key = .text operator.key := same
    rw [checkOperands_cons] at passed
    obtain ⟨_, here, later⟩ := Outcome.bind_eq_ok.mp passed
    rcases List.mem_cons.mp member with rfl | member
    · exact ⟨operator, _, rfl, here⟩
    · exact ih (fun other inside => keys other (List.mem_cons_of_mem _ inside)) later member

private theorem checkClause_map_ok (passed : checkClause trail (.map entries) = .ok ()) :
    checkCombinators trail entries = .ok () ∨ ∃ forms, checkFields trail [] entries = .ok forms := by
  rw [checkClause] at passed
  obtain ⟨keys, -, passed⟩ := Outcome.bind_eq_ok.mp passed
  dsimp only at passed
  split at passed
  next => cases passed
  next =>
    split at passed
    next => exact .inl passed
    next =>
      obtain ⟨forms, fields, -⟩ := Outcome.bind_eq_ok.mp passed
      exact .inr ⟨forms, fields⟩

/-! ## Checked values -/

structure FiniteIfChecked (value : Value) : Prop where
  clause (trail : Trail) (passed : checkClause trail value = .ok ()) : FiniteExcept OrderedMap value
  comparison (trail : Trail) (passed : checkComparison trail value = .ok ()) :
    FiniteExcept OrderedMap value
  clauses (trail : Trail) (index : Nat) (items : List Value) (same : value = .list items)
    (passed : checkClauses trail index items = .ok ()) : FiniteExcept OrderedMap value

private theorem mem_orderingOperators {operator : Operator} (orders : operator.need = .ordered) :
    operator ∈ orderingOperators := by
  cases operator <;> first | decide | cases orders

/-- An operand that fits is no number, or a finite one, unless there is something in it. -/
theorem finite_of_fits {need : Need} {operand : Value} (fits : need.fits operand = true)
    (leaf : isMap operand = false) (flat : isList operand = false) : FiniteExcept exempt operand := by
  cases operand with
  | list items => cases flat
  | map entries => cases leaf
  | atom leaf =>
    refine .atom fun number same => ?_
    subst same
    cases need with
    | scalar | ordered | kindCode => exact fits
    | count => exact (Bool.and_eq_true_iff.mp fits).1
    | _ => cases fits

private theorem finite_of_operand {operator : Operator} {operand : Value} (checked : FiniteIfChecked operand)
    (passed : checkOperand trail operator operand = .ok ())
    (looked : ¬OrderedMap (.text operator.key) operand) : FiniteExcept OrderedMap operand := by
  unfold checkOperand at passed
  split at passed
  next => cases passed
  next fits =>
    rw [Bool.not_eq_true, Bool.not_eq_false'] at fits
    -- Only an array is taken as a list. A map is taken by the operators that check what is in it, and by
    -- those that order by it.
    cases operand with
    | atom leaf => exact finite_of_fits fits rfl rfl
    | list items =>
      cases needed : operator.need with
      | array =>
        rw [needed] at passed
        exact .of_scalarList ((checkList_decides trail items).eq_ok_iff.mp passed)
      | _ =>
        rw [needed] at fits
        cases fits
    | map entries =>
      cases needed : operator.need with
      | comparison =>
        rw [needed] at passed
        exact checked.comparison trail passed
      | clause =>
        rw [needed] at passed
        exact checked.clause trail passed
      | ordered => exact absurd ⟨rfl, operator, mem_orderingOperators needed, rfl⟩ looked
      | _ =>
        rw [needed] at fits
        cases fits

private theorem finite_of_checked (value : Value) : FiniteIfChecked value := by
  induction value using Value.treeInduction with
  | atom leaf => exact ⟨nofun, nofun, nofun⟩
  | list items ih =>
    refine ⟨nofun, nofun, ?_⟩
    rintro trail index others same passed
    obtain rfl := Value.list.inj same
    refine .list fun item member => ?_
    obtain ⟨place, here⟩ := checkClauses_ok passed member
    exact (ih item member).clause place here
  | map entries ih =>
    constructor
    · intro trail passed
      rcases checkClause_map_ok passed with joined | ⟨forms, fields⟩
      · refine .map fun entry member _ => ?_
        obtain ⟨clauses, place, same, here⟩ := checkCombinators_ok joined member
        exact (ih entry member).clauses place 0 clauses same here
      · refine .map fun entry member _ => ?_
        rcases checkFields_ok fields member with scalar | scalars | ⟨place, here⟩
        · exact .of_scalar scalar
        · exact .of_scalarList scalars
        · exact (ih entry member).comparison place here
    · intro trail passed
      rw [checkComparison] at passed
      obtain ⟨operators, named, passed⟩ := Outcome.bind_eq_ok.mp passed
      obtain ⟨_, -, passed⟩ := Outcome.bind_eq_ok.mp passed
      refine .map fun entry member looked => ?_
      obtain ⟨operator, place, same, here⟩ :=
        checkOperands_ok (fun _ => comparisonOperators_ok named) passed member
      rw [same] at looked
      exact finite_of_operand (ih entry member) here looked
    · nofun

private theorem FiniteExcept.hasFiniteNumbers {value : Value} (finite : FiniteExcept exempt value)
    (free : ∀ key ∈ value.everyKey, ∀ operand, ¬exempt key operand) : HasFiniteNumbers value := by
  induction value using Value.treeInduction with
  | atom leaf =>
    cases finite with
    | atom finite => exact .atom finite
  | list items ih =>
    cases finite with
    | list each =>
      refine .list fun item member => ih item member (each item member) fun key inside => ?_
      exact free key (Value.mem_everyKey_list.mpr ⟨item, member, inside⟩)
  | map entries ih =>
    cases finite with
    | map each =>
      refine .map fun entry member _ => ?_
      have here := free entry.1 (Value.mem_everyKey_map.mpr ⟨entry, member, .inl rfl⟩) entry.2
      refine ih entry member (each entry member here) fun key inside => ?_
      exact free key (Value.mem_everyKey_map.mpr ⟨entry, member, .inr inside⟩)

/-! ## Whole filters -/

/-- A number in a parsed filter is finite, unless it lies in a map that an ordering operator compares with.
Without such operators all numbers are finite. -/
theorem parse_finite_except_ordered (registry : Registry) (limit filter canonical : Value)
    (parsed : parse registry limit filter = .ok canonical) :
    FiniteExcept OrderedMap canonical ∧
      ((∀ operator ∈ orderingOperators, .text operator.key ∉ canonical.everyKey) →
        HasFiniteNumbers canonical) := by
  have finite : FiniteExcept OrderedMap canonical :=
    (finite_of_checked canonical).clause [] (parse_valid parsed)
  refine ⟨finite, fun unordered => finite.hasFiniteNumbers ?_⟩
  rintro key inside operand ⟨-, operator, orders, rfl⟩
  exact unordered operator orders inside

/-- Numbers in lists and below several operators; only the map that values are ordered against is not looked
into. -/
theorem parse_finite_except_ordered_list :
    let sent (operand : Value) : Value := .map [(.text "$or", .list [
      .map [(.text "typeName", .map [(.text "$in", .list [.atom (.float .one), .int 2])])],
      .map [(.text "typeName", .map [(.text "$not", operand)])]])]
    let stored (operand : Value) : Value := .map [(.text "$or", .list [
      .map [(.text "type_name", .map [(.text "$in", .list [.atom (.float .one), .int 2])])],
      .map [(.text "type_name", .map [(.text "$not", operand)])]])]
    let unordered : Value := .map [(.text "$ne", .atom (.float .one))]
    let ordered : Value := .map [(.text "$gte", .map [(.text "$size", .atom (.float (.infinity true)))])]
    parse Registry.ofFiles (.int 7) (sent unordered) = .ok (stored unordered) ∧
      HasFiniteNumbers (stored unordered) ∧
      parse Registry.ofFiles (.int 7) (sent ordered) = .ok (stored ordered) ∧
      FiniteExcept OrderedMap (stored ordered) := by
  intro sent stored unordered ordered
  have finite : parse Registry.ofFiles (.int 7) (sent unordered) = .ok (stored unordered) :=
    parse_map_of_valid (by rfl) (by rfl) (by rfl)
  have infinite : parse Registry.ofFiles (.int 7) (sent ordered) = .ok (stored ordered) :=
    parse_map_of_valid (by rfl) (by rfl) (by rfl)
  have free : ∀ operator ∈ orderingOperators, .text operator.key ∉ (stored unordered).everyKey := by decide
  exact ⟨finite, (parse_finite_except_ordered _ _ _ _ finite).2 free, infinite,
    (parse_finite_except_ordered _ _ _ _ infinite).1⟩

/-- An infinite number is refused as an operand and accepted in a map that is one. -/
theorem infinite_number_accepted :
    let infinite : Value := .atom (.float (.infinity false))
    let filter (operand : Value) : Value := .map [(.text "size", .map [(.text "$gt", operand)])]
    let registry : Registry :=
      ⟨"files", .text "_id", [⟨.text "size", .text "size", .plain, .bool true⟩]⟩
    parse registry (.int 10) (filter (.map [(.text "size", infinite)])) =
        .ok (filter (.map [(.text "size", infinite)])) ∧
      ¬HasFiniteNumbers (filter (.map [(.text "size", infinite)])) ∧
      parse registry (.int 10) (filter infinite) =
        reject (.operand "$gt" .ordered "non-finite number") [.key (.text "$gt"), .key (.text "size")] := by
  intro infinite filter registry
  have unbounded : ¬HasFiniteNumbers (filter (.map [(.text "size", infinite)])) := by
    simp only [filter, hasFiniteNumbers_map, List.forall_mem_singleton, infinite, hasFiniteNumbers_float]
    decide
  exact ⟨parse_map_of_valid (by rfl) (by rfl) (by rfl), unbounded, by rfl⟩

end QueryGate.Filter
