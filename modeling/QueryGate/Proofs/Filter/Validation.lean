import QueryGate.Proofs.Filter.Decision
/-!
Validation decides the grammar. A filter whose keys are texts passes exactly if it is a clause, and what
is no clause is refused for a flaw of the filter and for nothing else. The argument follows the tree: a
map is decided by its keys and forms as soon as everything below it is.
-/

namespace QueryGate.Filter

structure Checked (value : Value) : Prop where
  clause (trail : Trail) : Decides (checkClause trail value) (Clause value) ()
  comparison (trail : Trail) : Decides (checkComparison trail value) (Comparison value) ()
  clauses (items : List Value) (same : value = .list items) (trail : Trail) (index : Nat) :
    Decides (checkClauses trail index items) (∀ clause ∈ items, Clause clause) ()

def TextKeyed (entries : Entries) : Prop := ∀ entry ∈ entries, ∃ name, entry.1 = .text name

variable {entries : Entries}

theorem TextKeyed.tail {entry : Atom × Value} (texts : TextKeyed (entry :: entries)) :
    TextKeyed entries := fun other member => texts other (List.mem_cons_of_mem _ member)

private theorem textKeys_eq (texts : TextKeyed entries) :
    textKeys entries = .ok (entries.map fun entry => entry.1.chars) := by
  induction entries with
  | nil => rfl
  | cons entry entries ih =>
    rcases entry with ⟨key, value⟩
    obtain ⟨name, same⟩ := texts _ (List.mem_cons_self ..)
    obtain rfl : key = .text name := same
    rw [textKeys, ih texts.tail]
    rfl

/-! ## Combinators -/

private theorem checkClauses_decides {items : List Value} (checked : ∀ item ∈ items, Checked item)
    (trail : Trail) (index : Nat) :
    Decides (checkClauses trail index items) (∀ clause ∈ items, Clause clause) () := by
  induction items generalizing index with
  | nil => exact .passes () (by simp)
  | cons item items ih =>
    rw [checkClauses]
    have first := (checked item (List.mem_cons_self ..)).clause (.index index :: trail)
    have later := ih (fun other member => checked other (List.mem_cons_of_mem _ member)) (index + 1)
    exact (first.bind fun _ => later).congr (by simp)

theorem isList_of_clauseList {value : Value} (clauses : ClauseList value) : isList value = true := by
  cases clauses
  rfl

private theorem clauseList_iff {items : List Value} :
    ClauseList (.list items) ↔ ∀ clause ∈ items, Clause clause :=
  ⟨fun ⟨each⟩ => each, .intro⟩

private theorem checkCombinators_decides (trail : Trail) (texts : TextKeyed entries)
    (checked : ∀ entry ∈ entries, Checked entry.2) :
    Decides (checkCombinators trail entries)
      (∀ entry ∈ entries, CombinatorKey entry.1 ∧ ClauseList entry.2) () := by
  induction entries with
  | nil => exact .passes () (by simp)
  | cons entry entries ih =>
    rcases entry with ⟨key, value⟩
    obtain ⟨name, same⟩ := texts _ (List.mem_cons_self ..)
    obtain rfl : key = .text name := same
    have later := ih texts.tail fun other member => checked other (List.mem_cons_of_mem _ member)
    have here := checked _ (List.mem_cons_self ..)
    by_cases joins : CombinatorKey (.text name)
    · have test := isCombinator_iff.mpr joins
      cases value with
      | list clauses =>
        simp only [checkCombinators, Atom.chars, test, Bool.not_true]
        refine .congr (.bind (here.clauses clauses rfl _ 0) fun _ => later) ?_
        simp [joins, clauseList_iff]
      | atom leaf =>
        simp only [checkCombinators, Atom.chars, test, Bool.not_true]
        exact .fails _ _ () fun each =>
          absurd (isList_of_clauseList (each _ (List.mem_cons_self ..)).2) Bool.false_ne_true
      | map entries =>
        simp only [checkCombinators, Atom.chars, test, Bool.not_true]
        exact .fails _ _ () fun each =>
          absurd (isList_of_clauseList (each _ (List.mem_cons_self ..)).2) Bool.false_ne_true
    · have test : (Operator.ofKey? name).any Operator.isCombinator = false := by
        simpa using mt isCombinator_iff.mp joins
      unfold checkCombinators
      simp only [Atom.chars, test, Bool.not_false]
      exact .fails _ _ () fun each => joins (each _ (List.mem_cons_self ..)).1

/-! ## Fields -/

def Form.Fits : Form → Value → Prop
  | .plain, value => Scalar value
  | .array, value => ScalarList value
  | .comparison, value => Comparison value

theorem formOf_of_fits {form : Form} {value : Value} (fits : form.Fits value) : formOf value = form := by
  cases form with
  | plain =>
    cases fits with
    | number number => cases number <;> rfl
    | _ => rfl
  | array =>
    cases fits
    rfl
  | comparison =>
    cases fits
    rfl

private theorem checkFields_decides (trail : Trail) (forms : List (Form × String)) (texts : TextKeyed entries)
    (checked : ∀ entry ∈ entries, Checked entry.2) :
    Decides (checkFields trail forms entries)
      (∀ entry ∈ entries, FieldName entry.1 ∧ (formOf entry.2).Fits entry.2)
      (noteForms forms entries) := by
  induction entries generalizing forms with
  | nil => exact .passes forms (by simp)
  | cons entry entries ih =>
    rcases entry with ⟨key, value⟩
    obtain ⟨name, same⟩ := texts _ (List.mem_cons_self ..)
    obtain rfl : key = .text name := same
    have later forms := ih forms texts.tail fun other member => checked other (List.mem_cons_of_mem _ member)
    have here := checked _ (List.mem_cons_self ..)
    by_cases named : FieldName (.text name)
    · have test := isFieldName_iff.mpr named
      cases value with
      | atom leaf =>
        simp only [checkFields, Atom.chars, test, Bool.not_true]
        by_cases scalar : isScalar (.atom leaf) = true
        · rw [scalar]
          refine .congr (later _) ?_
          have fits : (formOf (.atom leaf)).Fits (.atom leaf) := isScalar_iff.mp scalar
          simp [named, fits]
        · rw [Bool.eq_false_iff.mpr scalar]
          exact .fails _ _ _ fun each => scalar (isScalar_iff.mpr (each _ (List.mem_cons_self ..)).2)
      | list items =>
        simp only [checkFields, Atom.chars, test, Bool.not_true]
        refine .congr (.bind (checkList_decides _ items) fun _ => later _) ?_
        simp [named, formOf, Form.Fits]
      | map entries =>
        simp only [checkFields, Atom.chars, test, Bool.not_true]
        refine .congr (.bind (here.comparison _) fun _ => later _) ?_
        simp [named, formOf, Form.Fits]
    · have test : isFieldName name = false := by simpa using mt isFieldName_iff.mp named
      unfold checkFields
      simp only [Atom.chars, test, Bool.not_false]
      exact .fails _ _ _ fun each => named (each _ (List.mem_cons_self ..)).1

/-! ## Comparisons -/

private theorem checkOperands_decides (trail : Trail) (keys : ∀ entry ∈ entries, ComparisonKey entry.1)
    (checked : ∀ entry ∈ entries, Checked entry.2) :
    Decides (checkOperands trail entries)
      (∀ entry ∈ entries, ∀ operator : Operator, entry.1 = .text operator.key →
        Operand operator entry.2) () := by
  induction entries with
  | nil => exact .passes () (by simp)
  | cons entry entries ih =>
    rcases entry with ⟨key, value⟩
    obtain ⟨operator, compares, same⟩ := keys _ (List.mem_cons_self ..)
    obtain rfl : key = .text operator.key := same
    have later := ih (fun other member => keys other (List.mem_cons_of_mem _ member))
      fun other member => checked other (List.mem_cons_of_mem _ member)
    have here := checked _ (List.mem_cons_self ..)
    rw [checkOperands_cons]
    have operand := checkOperand_decides compares (here.comparison (.key (.text operator.key) :: trail))
      (here.clause (.key (.text operator.key) :: trail))
    refine .congr (.bind operand fun _ => later) ?_
    constructor
    · rintro ⟨rule, rules⟩ entry member other named
      rcases List.mem_cons.mp member with rfl | member
      · rw [key_injective (Atom.text.inj named.symm)]
        exact rule
      · exact rules entry member other named
    · intro rules
      exact ⟨rules _ (List.mem_cons_self ..) operator rfl,
        fun entry member => rules entry (List.mem_cons_of_mem _ member)⟩

private theorem checkComparison_decides (trail : Trail) (texts : TextKeyed entries)
    (checked : ∀ entry ∈ entries, Checked entry.2) :
    Decides (checkComparison trail (.map entries)) (Comparison (.map entries)) () := by
  rw [checkComparison]
  refine ((comparisonOperators_decides trail entries texts).bind fun keys =>
    (checkCombination_decides trail keys).bind fun _ => checkOperands_decides trail keys checked).congr ?_
  constructor
  · rintro ⟨-, together, operands⟩
    exact .intro together operands
  · rintro ⟨together, operands⟩
    exact ⟨comparisonKeys_of_together together, together, operands⟩

/-! ## Clauses -/

private theorem clause_iff_of_operators (sigilled : ∀ entry ∈ entries, isOperatorKey entry.1.chars = true) :
    (∀ entry ∈ entries, CombinatorKey entry.1 ∧ ClauseList entry.2) ↔ Clause (.map entries) := by
  have bare (names : ∀ entry ∈ entries, FieldName entry.1) : entries = [] := by
    refine List.eq_nil_iff_forall_not_mem.mpr fun entry member => ?_
    have different := (names entry member).not_isOperatorKey
    rw [sigilled entry member] at different
    cases different
  constructor
  · intro joined
    exact .joined (fun entry member => (joined entry member).1) fun entry member => (joined entry member).2
  · intro clause
    cases clause with
    | joined keys values => exact fun entry member => ⟨keys entry member, values entry member⟩
    | plain names | arrays names | compared names => simp [bare names]

private theorem clause_iff_of_fields (bare : ∀ entry ∈ entries, isOperatorKey entry.1.chars = false) :
    ((∀ entry ∈ entries, FieldName entry.1 ∧ (formOf entry.2).Fits entry.2) ∧
        ∀ first ∈ entries, ∀ second ∈ entries, formOf first.2 = formOf second.2) ↔
      Clause (.map entries) := by
  constructor
  · rintro ⟨fields, same⟩
    have names : ∀ entry ∈ entries, FieldName entry.1 := fun entry member => (fields entry member).1
    cases entries with
    | nil => exact .plain names (fun _ member => absurd member List.not_mem_nil)
    | cons entry entries =>
      have fits : ∀ other ∈ entry :: entries, (formOf entry.2).Fits other.2 := by
        intro other member
        rw [same entry (List.mem_cons_self ..) other member]
        exact (fields other member).2
      generalize formOf entry.2 = form at fits
      cases form with
      | plain => exact .plain names fits
      | array => exact .arrays names fits
      | comparison => exact .compared names fits
  · intro clause
    have uniform (form : Form) (names : ∀ entry ∈ entries, FieldName entry.1)
        (fits : ∀ entry ∈ entries, form.Fits entry.2) :
        (∀ entry ∈ entries, FieldName entry.1 ∧ (formOf entry.2).Fits entry.2) ∧
          ∀ first ∈ entries, ∀ second ∈ entries, formOf first.2 = formOf second.2 := by
      constructor
      · intro entry member
        rw [formOf_of_fits (fits entry member)]
        exact ⟨names entry member, fits entry member⟩
      · intro first member second other
        rw [formOf_of_fits (fits first member), formOf_of_fits (fits second other)]
    cases clause with
    | joined keys values =>
      have none : entries = [] := by
        refine List.eq_nil_iff_forall_not_mem.mpr fun entry member => ?_
        have sigilled := (keys entry member).isOperatorKey
        rw [bare entry member] at sigilled
        cases sigilled
      simp [none]
    | plain names values => exact uniform .plain names values
    | arrays names values => exact uniform .array names values
    | compared names values => exact uniform .comparison names values

private theorem not_clause_of_mixed {first second : Atom × Value} (member : first ∈ entries)
    (other : second ∈ entries) (sigilled : isOperatorKey first.1.chars = true)
    (bare : isOperatorKey second.1.chars = false) : ¬Clause (.map entries) := by
  have unnamed (names : ∀ entry ∈ entries, FieldName entry.1) : False := by
    have different := (names first member).not_isOperatorKey
    rw [sigilled] at different
    cases different
  intro clause
  cases clause with
  | joined keys =>
    have same := (keys second other).isOperatorKey
    rw [bare] at same
    cases same
  | plain names | arrays names | compared names => exact unnamed names

theorem isEmpty_filter_keys (entries : Entries) (test : String → Bool) :
    ((entries.map fun entry => entry.1.chars).filter test).isEmpty = true ↔
      ∀ entry ∈ entries, test entry.1.chars = false := by
  simp only [List.isEmpty_iff, List.filter_eq_nil_iff, List.forall_mem_map, Bool.not_eq_true]

private theorem checkClause_decides (trail : Trail) (texts : TextKeyed entries)
    (checked : ∀ entry ∈ entries, Checked entry.2) :
    Decides (checkClause trail (.map entries)) (Clause (.map entries)) () := by
  have opened : checkClause trail (.map entries) =
      if !((entries.map fun entry => entry.1.chars).filter isOperatorKey).isEmpty &&
          !((entries.map fun entry => entry.1.chars).filter fun key => !isOperatorKey key).isEmpty then
        reject (.mixed ((entries.map fun entry => entry.1.chars).filter isOperatorKey)) trail
      else if ((entries.map fun entry => entry.1.chars).filter fun key => !isOperatorKey key).isEmpty then
        checkCombinators trail entries
      else checkFields trail [] entries >>= fun forms => checkForms trail forms := by
    rw [checkClause, textKeys_eq texts]
    rfl
  have fieldless := isEmpty_filter_keys entries fun key => !isOperatorKey key
  have unjoined := isEmpty_filter_keys entries isOperatorKey
  simp only [Bool.not_eq_false'] at fieldless
  rw [opened]
  by_cases joined : ∀ entry ∈ entries, isOperatorKey entry.1.chars = true
  · rw [fieldless.mpr joined]
    exact .congr (by simpa using checkCombinators_decides trail texts checked)
      (clause_iff_of_operators joined)
  · rw [Bool.eq_false_iff.mpr (mt fieldless.mp joined)]
    by_cases bare : ∀ entry ∈ entries, isOperatorKey entry.1.chars = false
    · rw [unjoined.mpr bare]
      refine .congr ?_ (clause_iff_of_fields bare)
      exact .bind (checkFields_decides trail [] texts checked) fun _ => checkForms_decides trail entries
    · rw [Bool.eq_false_iff.mpr (mt unjoined.mp bare)]
      have field : ∃ entry ∈ entries, isOperatorKey entry.1.chars = false := by
        simpa only [Classical.not_forall, exists_prop, Bool.not_eq_true] using joined
      have operator : ∃ entry ∈ entries, isOperatorKey entry.1.chars = true := by
        simpa only [Classical.not_forall, exists_prop, Bool.not_eq_false] using bare
      obtain ⟨second, other, bare⟩ := field
      obtain ⟨first, member, sigilled⟩ := operator
      exact .fails _ _ () (not_clause_of_mixed member other sigilled bare)

/-! ## The whole tree -/

theorem decides_of_not_map (value : Value) (other : isMap value = false) (trail : Trail) :
    Decides (checkClause trail value) (Clause value) () ∧
      Decides (checkComparison trail value) (Comparison value) () := by
  have noClause : ¬Clause value := by
    intro clause
    rw [isMap_of_clause clause] at other
    cases other
  have noComparison : ¬Comparison value := by
    intro comparison
    rw [isMap_of_comparison comparison] at other
    cases other
  cases value with
  | atom leaf => exact ⟨.fails _ _ () noClause, .fails _ _ () noComparison⟩
  | list items => exact ⟨.fails _ _ () noClause, .fails _ _ () noComparison⟩
  | map entries => cases other

theorem checked_of_texts (value : Value) (texts : value.HasTextKeys) : Checked value := by
  induction value using Value.treeInduction with
  | atom leaf =>
    have other := decides_of_not_map (.atom leaf) rfl
    exact ⟨fun trail => (other trail).1, fun trail => (other trail).2, nofun⟩
  | list items ih =>
    have other := decides_of_not_map (.list items) rfl
    have inside : ∀ item ∈ items, Checked item := fun item member => ih item member (texts.item member)
    refine ⟨fun trail => (other trail).1, fun trail => (other trail).2, ?_⟩
    rintro others same trail index
    rw [← Value.list.inj same]
    exact checkClauses_decides inside trail index
  | map entries ih =>
    have keyed : TextKeyed entries := fun entry member => texts.key member
    have inside : ∀ entry ∈ entries, Checked entry.2 :=
      fun entry member => ih entry member (texts.value member)
    constructor
    · exact fun trail => checkClause_decides trail keyed inside
    · exact fun trail => checkComparison_decides trail keyed inside
    · exact nofun

/-- Validation passes exactly the clauses, and finds a flaw in all that is none. -/
theorem validate_iff_clause (value : Value) (texts : value.HasTextKeys) :
    (validate value = .ok () ↔ Clause value) ∧
      (¬Clause value → ∃ flaw trail, validate value = .error (.flaw flaw trail)) := by
  have decided := (checked_of_texts value texts).clause []
  exact ⟨decided.eq_ok_iff, decided.exists_flaw⟩

/-- A pattern may carry flags below two operators that hold other conditions, but flags need a pattern. -/
theorem validate_iff_clause_nested :
    let around (operators : Entries) : Value := .map [(.text "$nor", .list [.map [(.text "tags",
      .map [(.text "$elemMatch", .map [(.text "name", .map [(.text "$not", .map operators)])])])]])]
    let accepted := around [(.text "$options", .text "im"), (.text "$regex", .text "^a")]
    let refused := around [(.text "$options", .text "im")]
    (accepted.HasTextKeys ∧ validate accepted = .ok () ∧ Clause accepted) ∧
      refused.HasTextKeys ∧ ¬Clause refused ∧
        ∃ flaw trail, validate refused = .error (.flaw flaw trail) := by
  intro around accepted refused
  have texts : accepted.HasTextKeys := by
    simp [accepted, around, Value.HasTextKeys, Value.mem_everyKey_map, Value.mem_everyKey_list]
  have fewer : refused.HasTextKeys := by
    simp [refused, around, Value.HasTextKeys, Value.mem_everyKey_map, Value.mem_everyKey_list]
  have passes : validate accepted = .ok () := by rfl
  have fails : validate refused ≠ .ok () := by
    intro passes
    cases passes
  have none := mt (validate_iff_clause refused fewer).1.mpr fails
  exact ⟨⟨texts, passes, (validate_iff_clause accepted texts).1.mp passes⟩,
    fewer, none, (validate_iff_clause refused fewer).2 none⟩

end QueryGate.Filter
