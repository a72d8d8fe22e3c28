import QueryGate.Proofs.Filter.ClauseGrammar
import QueryGate.Proofs.Outcome
import QueryGate.Proofs.Value.Tree
/-!
Checks that decide. A check of a part of a filter decides a property if it passes exactly where the
property holds and finds a flaw everywhere else. Here are the checks that look at one level only: lists
of leaves, operands, the operators of a comparison and the forms of conditions.
-/

namespace QueryGate.Filter

/-! ## Checks that decide -/

/-- A check that passes with a value where a property holds and finds a flaw where it does not. -/
inductive Decides {α : Type} : Except Rejection α → Prop → α → Prop
  | passes {property : Prop} (value : α) (holds : property) : Decides (.ok value) property value
  | fails {property : Prop} (flaw : Flaw) (trail : Trail) (value : α) (violated : ¬property) :
      Decides (.error (.flaw flaw trail)) property value

namespace Decides

variable {α β : Type} {check : Except Rejection α} {first second : Prop} {value : α}

theorem congr (decided : Decides check first value) (same : first ↔ second) :
    Decides check second value := by
  cases decided with
  | passes _ holds => exact .passes value (same.mp holds)
  | fails flaw trail _ violated => exact .fails flaw trail value (mt same.mpr violated)

theorem bind {next : α → Except Rejection β} {result : β} (decided : Decides check first value)
    (later : first → Decides (next value) second result) :
    Decides (check >>= next) (first ∧ second) result := by
  cases decided with
  | passes _ holds => exact (later holds).congr ⟨fun rest => ⟨holds, rest⟩, And.right⟩
  | fails flaw trail _ violated => exact .fails flaw trail result fun both => violated both.1

theorem map {change : α → β} (decided : Decides check first value) :
    Decides (check.map change) first (change value) := by
  cases decided with
  | passes _ holds => exact .passes (change value) holds
  | fails flaw trail _ violated => exact .fails flaw trail (change value) violated

/-- A test that stands before a check. -/
theorem guard {test : Bool} {flaw : Flaw} {trail : Trail}
    (later : test = true → Decides check second value) :
    Decides (if !test then reject flaw trail else check) (test = true ∧ second) value := by
  cases test with
  | false => exact .fails flaw trail value fun both => Bool.false_ne_true both.1
  | true => exact (later rfl).congr (by simp)

theorem eq_ok_iff (decided : Decides check first value) : check = .ok value ↔ first := by
  cases decided with
  | passes _ holds => exact ⟨fun _ => holds, fun _ => rfl⟩
  | fails flaw trail _ violated => exact ⟨nofun, fun holds => absurd holds violated⟩

theorem exists_flaw (decided : Decides check first value) (violated : ¬first) :
    ∃ flaw trail, check = .error (.flaw flaw trail) := by
  cases decided with
  | passes _ holds => exact absurd holds violated
  | fails flaw trail _ _ => exact ⟨flaw, trail, rfl⟩

end Decides

/-! ## Lists of leaves -/

private theorem checkScalars_decides (trail : Trail) (index : Nat) (items : List Value) :
    Decides (checkScalars trail index items) (∀ item ∈ items, Scalar item) () := by
  induction items generalizing index with
  | nil => exact .passes () (by simp)
  | cons item items ih =>
    rw [checkScalars]
    by_cases leaf : isScalar item = true
    · rw [if_pos leaf]
      exact (ih (index + 1)).congr (by simp [isScalar_iff.mp leaf])
    · rw [if_neg leaf]
      exact .fails _ _ () fun each => leaf (isScalar_iff.mpr (each item (List.mem_cons_self ..)))

theorem checkList_decides (trail : Trail) (items : List Value) :
    Decides (checkScalars trail 0 items) (ScalarList (.list items)) () :=
  (checkScalars_decides trail 0 items).congr ⟨.intro, fun ⟨scalars⟩ => scalars⟩

/-! ## Operands -/

def Need.Met : Need → Value → Prop
  | .scalar, operand => Scalar operand
  | .ordered, operand => Ordered operand
  | .array, operand => ScalarList operand
  | .boolean, operand => ∃ flag, operand = .bool flag
  | .count, operand => Count operand
  | .kindCode, operand => (∃ chars, operand = .text chars) ∨ Number operand
  | .text, operand => ∃ chars, operand = .text chars
  | .flags, operand => Flags operand
  | .comparison, operand => Comparison operand
  | .clause, operand => Clause operand

private theorem operand_iff_met {operator : Operator} (comparison : operator.isComparison = true)
    {operand : Value} : Operand operator operand ↔ operator.need.Met operand := by
  constructor
  · intro rule
    cases rule with
    | equality kind scalar =>
      simp only [List.mem_cons, List.not_mem_nil, or_false] at kind
      rcases kind with rfl | rfl <;> exact scalar
    | order kind ordered =>
      simp only [List.mem_cons, List.not_mem_nil, or_false] at kind
      rcases kind with rfl | rfl | rfl | rfl <;> exact ordered
    | membership kind scalars =>
      simp only [List.mem_cons, List.not_mem_nil, or_false] at kind
      rcases kind with rfl | rfl | rfl <;> exact scalars
    | present flag => exact ⟨flag, rfl⟩
    | size count => exact count
    | kindName chars => exact .inl ⟨chars, rfl⟩
    | kindNumber number => exact .inr number
    | pattern chars => exact ⟨chars, rfl⟩
    | patternFlags flags => exact flags
    | negated comparison => exact comparison
    | elemMatch clause => exact clause
  · intro met
    cases operator with
    | eq | ne => exact .equality (by decide) met
    | gt | gte | lt | lte => exact .order (by decide) met
    | within | notWithin | all => exact .membership (by decide) met
    | size => exact .size met
    | elemMatch => exact .elemMatch met
    | negated => exact .negated met
    | present =>
      obtain ⟨flag, rfl⟩ := met
      exact .present flag
    | kind =>
      rcases met with ⟨chars, rfl⟩ | number
      · exact .kindName chars
      · exact .kindNumber number
    | pattern =>
      obtain ⟨chars, rfl⟩ := met
      exact .pattern chars
    | patternFlags => exact .patternFlags met
    | both | either | neither => cases comparison

theorem isMap_of_comparison {operand : Value} (comparison : Comparison operand) :
    isMap operand = true := by
  cases comparison
  rfl

theorem isMap_of_clause {operand : Value} (clause : Clause operand) : isMap operand = true := by
  cases clause <;> rfl

private theorem isOrdered_iff {operand : Value} :
    (isText operand || isMap operand || isDate operand || isNumber operand) = true ↔
      Ordered operand := by
  simp only [Bool.or_eq_true]
  constructor
  · rintro (((text | map) | date) | number)
    · unfold isText at text
      split at text
      next chars => exact .text chars
      next => cases text
    · unfold isMap at map
      split at map
      next entries => exact .map entries
      next => cases map
    · unfold isDate at date
      split at date
      next moment => exact .date moment
      next => cases date
    · exact .number (isNumber_iff.mp number)
  · intro ordered
    cases ordered with
    | text chars => exact .inl (.inl (.inl rfl))
    | map entries => exact .inl (.inl (.inr rfl))
    | date moment => exact .inl (.inr rfl)
    | number number => exact .inr (isNumber_iff.mpr number)

private theorem isCount_iff {operand : Value} :
    (isNumber operand && !isBelowZero operand) = true ↔ Count operand := by
  simp only [Bool.and_eq_true, Bool.not_eq_true', isNumber_iff]
  constructor
  · rintro ⟨number, nonneg⟩
    cases number with
    | int number => exact .int number (by simpa [isBelowZero] using nonneg)
    | float number finite => exact .float number finite nonneg
  · intro count
    cases count with
    | int number nonneg => exact ⟨.int number, by simpa [isBelowZero] using nonneg⟩
    | float number finite nonneg => exact ⟨.float number finite, nonneg⟩

theorem isText_iff {operand : Value} : isText operand = true ↔ ∃ chars, operand = .text chars := by
  constructor
  · intro text
    unfold isText at text
    split at text
    next chars => exact ⟨chars, rfl⟩
    next => cases text
  · rintro ⟨chars, rfl⟩
    rfl

private theorem isBool_iff {operand : Value} : isBool operand = true ↔ ∃ flag, operand = .bool flag := by
  constructor
  · intro bool
    unfold isBool at bool
    split at bool
    next flag => exact ⟨flag, rfl⟩
    next => cases bool
  · rintro ⟨flag, rfl⟩
    rfl

def checkOperand (trail : Trail) (operator : Operator) (operand : Value) : Except Rejection Unit :=
  if !operator.need.fits operand then
    reject (.operand operator.key operator.need operand.kindName) trail
  else match operator.need, operand with
    | .array, .list items => checkScalars trail 0 items
    | .comparison, operand => checkComparison trail operand
    | .clause, operand => checkClause trail operand
    | _, _ => .ok ()

theorem checkOperands_cons (trail : Trail) (operator : Operator) (operand : Value)
    (entries : Entries) :
    checkOperands trail ((.text operator.key, operand) :: entries) =
      (checkOperand (.key (.text operator.key) :: trail) operator operand >>= fun _ =>
        checkOperands trail entries) := by
  rw [checkOperands]
  simp only [Atom.chars, Operator.ofKey?_key, checkOperand]
  generalize operator.need = need
  cases need.fits operand with
  | false => rfl
  | true => cases need <;> cases operand <;> rfl

/-- Where the checks of comparisons and clauses decide, so does the check of an operand. -/
theorem checkOperand_decides {trail : Trail} {operator : Operator} {operand : Value}
    (compares : operator.isComparison = true)
    (comparison : Decides (checkComparison trail operand) (Comparison operand) ())
    (clause : Decides (checkClause trail operand) (Clause operand) ()) :
    Decides (checkOperand trail operator operand) (Operand operator operand) () := by
  refine .congr ?_ (operand_iff_met compares).symm
  unfold checkOperand
  generalize operator.need = need
  have leaf {test : Bool} {flaw : Flaw} {met : Prop} (same : test = true ↔ met) :
      Decides (if !test then reject flaw trail else .ok ()) met () :=
    (Decides.guard fun _ => .passes () trivial).congr (by rw [and_true, same])
  cases need with
  | scalar => exact leaf isScalar_iff
  | ordered => exact leaf isOrdered_iff
  | boolean => exact leaf isBool_iff
  | count => exact leaf isCount_iff
  | kindCode => exact leaf (by rw [Need.fits, Need.Met, Bool.or_eq_true, isText_iff, isNumber_iff])
  | text => exact leaf isText_iff
  | flags => exact leaf isFlags_iff
  | comparison => exact (Decides.guard fun _ => comparison).congr (and_iff_right_of_imp isMap_of_comparison)
  | clause => exact (Decides.guard fun _ => clause).congr (and_iff_right_of_imp isMap_of_clause)
  | array =>
    cases operand with
    | list items => exact checkList_decides trail items
    | atom leaf => exact .fails _ trail () nofun
    | map entries => exact .fails _ trail () nofun

/-! ## Operators of a comparison -/

def ComparisonKey (key : Atom) : Prop :=
  ∃ operator : Operator, operator.isComparison = true ∧ key = .text operator.key

def operatorsOf (entries : Entries) : List Operator :=
  entries.filterMap fun entry => Operator.ofKey? entry.1.chars

theorem key_injective {first second : Operator} (same : first.key = second.key) : first = second := by
  have found := Operator.ofKey?_key first
  rw [same, Operator.ofKey?_key] at found
  exact (Option.some.inj found).symm

theorem comparisonKey_iff {name : String} :
    ComparisonKey (.text name) ↔
      ∃ operator, (Operator.ofKey? name).filter Operator.isComparison = some operator := by
  constructor
  · rintro ⟨operator, compares, same⟩
    rw [Atom.text.inj same, Operator.ofKey?_key]
    exact ⟨operator, Option.filter_some_pos compares⟩
  · rintro ⟨operator, kept⟩
    obtain ⟨found, compares⟩ := Option.filter_eq_some_iff.mp kept
    exact ⟨operator, compares, by rw [Operator.key_of_ofKey? found]⟩

theorem comparisonOperators_decides (trail : Trail) (entries : Entries)
    (texts : ∀ entry ∈ entries, ∃ name, entry.1 = .text name) :
    Decides (comparisonOperators trail entries) (∀ entry ∈ entries, ComparisonKey entry.1)
      (operatorsOf entries) := by
  induction entries with
  | nil => exact .passes [] (by simp)
  | cons entry entries ih =>
    rcases entry with ⟨key, operand⟩
    obtain ⟨name, same⟩ := texts (key, operand) (List.mem_cons_self ..)
    obtain rfl : key = .text name := same
    have later := ih fun entry member => texts entry (List.mem_cons_of_mem _ member)
    rw [comparisonOperators]
    by_cases sigilled : isOperatorKey name = true
    · rw [if_neg (by simp [sigilled])]
      cases kept : (Operator.ofKey? name).filter Operator.isComparison with
      | none =>
        refine .fails _ _ _ fun each => ?_
        obtain ⟨operator, found⟩ := comparisonKey_iff.mp (each _ (List.mem_cons_self ..))
        rw [kept] at found
        cases found
      | some operator =>
        have compares := comparisonKey_iff.mpr ⟨operator, kept⟩
        have found : operatorsOf ((.text name, operand) :: entries) = operator :: operatorsOf entries := by
          rw [operatorsOf, List.filterMap_cons]
          simp only [Atom.chars, (Option.filter_eq_some_iff.mp kept).1]
          rfl
        rw [found]
        exact later.map.congr (by simp [compares])
    · rw [if_pos (by simpa using sigilled)]
      refine .fails _ _ _ fun each => sigilled ?_
      obtain ⟨operator, -, named⟩ := each _ (List.mem_cons_self ..)
      rw [Atom.text.inj named]
      exact isOperatorKey_key operator

/-! ## Combinations -/

theorem mem_operatorsOf {entries : Entries} (keys : ∀ entry ∈ entries, ComparisonKey entry.1)
    {operator : Operator} :
    operator ∈ operatorsOf entries ↔ .text operator.key ∈ Entries.keys entries := by
  rw [operatorsOf, List.mem_filterMap, Entries.keys, List.mem_map]
  constructor
  · rintro ⟨entry, member, found⟩
    obtain ⟨other, -, named⟩ := keys entry member
    rw [named, Atom.chars, Operator.ofKey?_key] at found
    exact ⟨entry, member, Option.some.inj found ▸ named⟩
  · rintro ⟨entry, member, named⟩
    refine ⟨entry, member, ?_⟩
    rw [named]
    exact Operator.ofKey?_key operator

theorem within_iff {shape : Shape} {entries : Entries}
    (keys : ∀ entry ∈ entries, ComparisonKey entry.1) :
    Within shape (Entries.keys entries) ↔
      ∀ operator ∈ operatorsOf entries, operator ∈ shape.operators := by
  constructor
  · intro inside operator member
    obtain ⟨other, listed, same⟩ := inside _ ((mem_operatorsOf keys).mp member)
    rw [key_injective (Atom.text.inj same)]
    exact listed
  · intro inside key member
    obtain ⟨entry, present, rfl⟩ := List.mem_map.mp member
    obtain ⟨operator, -, named⟩ := keys entry present
    exact ⟨operator, inside operator ((mem_operatorsOf keys).mpr (named ▸ member)), named⟩

theorem combinable_iff {operators : List Operator} :
    combinable operators = true ↔ ∃ shape ∈ shapes,
      (∀ operator ∈ operators, operator ∈ shape.operators) ∧
        ∀ operator ∈ shape.required, operator ∈ operators := by
  simp only [combinable, Shape.admits, List.any_eq_true, Bool.and_eq_true, List.all_eq_true,
    List.contains_iff_mem]

theorem required_of_shapes : ∀ shape ∈ shapes,
    (shape.operators = [.pattern, .patternFlags] ∧ shape.required = [.pattern]) ∨
      (shape.operators ≠ [.pattern, .patternFlags] ∧ shape.required = []) := by
  decide

private theorem combinable_of_together {entries : Entries} (keys : ∀ entry ∈ entries, ComparisonKey entry.1)
    (together : Together (Entries.keys entries)) (present : Entries.keys entries ≠ []) :
    combinable (operatorsOf entries) = true := by
  obtain ⟨⟨shape, listed, inside⟩, pattern⟩ := together
  apply combinable_iff.mpr
  by_cases alone : ∀ other ∈ shapes, Within other (Entries.keys entries) →
      other.operators = [.pattern, .patternFlags]
  · refine ⟨shape, listed, (within_iff keys).mp inside, ?_⟩
    rcases required_of_shapes shape listed with ⟨-, required⟩ | ⟨different, -⟩
    · rw [required]
      intro operator needed
      rw [List.mem_singleton.mp needed]
      exact (mem_operatorsOf keys).mpr (pattern present alone)
    · exact absurd (alone shape listed inside) different
  · have another : ∃ other ∈ shapes, Within other (Entries.keys entries) ∧
        other.operators ≠ [.pattern, .patternFlags] := by
      simpa only [Classical.not_forall, exists_prop, ne_eq] using alone
    obtain ⟨other, known, within, different⟩ := another
    refine ⟨other, known, (within_iff keys).mp within, ?_⟩
    rcases required_of_shapes other known with ⟨same, -⟩ | ⟨-, required⟩
    · exact absurd same different
    · simp [required]

private theorem together_of_combinable {entries : Entries} (keys : ∀ entry ∈ entries, ComparisonKey entry.1)
    (combined : combinable (operatorsOf entries) = true) : Together (Entries.keys entries) := by
  obtain ⟨shape, listed, inside, required⟩ := combinable_iff.mp combined
  have within := (within_iff keys).mpr inside
  refine ⟨⟨shape, listed, within⟩, fun _ alone => ?_⟩
  rcases required_of_shapes shape listed with ⟨-, needed⟩ | ⟨different, -⟩
  · exact (mem_operatorsOf keys).mp (required .pattern (by simp [needed]))
  · exact absurd (alone shape listed within) different

theorem operatorsOf_eq_nil {entries : Entries} (keys : ∀ entry ∈ entries, ComparisonKey entry.1) :
    operatorsOf entries = [] ↔ entries = [] := by
  constructor
  · intro none
    cases entries with
    | nil => rfl
    | cons entry entries =>
      obtain ⟨operator, -, named⟩ := keys entry (List.mem_cons_self ..)
      have first : .text operator.key ∈ Entries.keys (entry :: entries) := by
        rw [← named]
        exact List.mem_cons_self ..
      have listed := (mem_operatorsOf keys).mpr first
      rw [none] at listed
      cases listed
  · rintro rfl
    rfl

theorem checkCombination_decides (trail : Trail) {entries : Entries}
    (keys : ∀ entry ∈ entries, ComparisonKey entry.1) :
    Decides (checkCombination trail (operatorsOf entries)) (Together (Entries.keys entries)) () := by
  rw [checkCombination]
  by_cases free : ((operatorsOf entries).isEmpty || combinable (operatorsOf entries)) = true
  · rw [if_pos free]
    refine .passes () ?_
    rcases Bool.or_eq_true_iff.mp free with empty | combined
    · rw [(operatorsOf_eq_nil keys).mp (List.isEmpty_iff.mp empty)]
      have inside (shape : Shape) : Within shape [] := fun _ member => absurd member List.not_mem_nil
      exact ⟨⟨_, List.mem_cons_self .., inside _⟩, fun present => absurd rfl present⟩
    · exact together_of_combinable keys combined
  · rw [if_neg free]
    have violated : ¬Together (Entries.keys entries) := by
      intro together
      refine free (Bool.or_eq_true_iff.mpr ?_)
      by_cases empty : entries = []
      · exact .inl (List.isEmpty_iff.mpr ((operatorsOf_eq_nil keys).mpr empty))
      · exact .inr (combinable_of_together keys together (mt List.map_eq_nil_iff.mp empty))
    by_cases alone : ((operatorsOf entries).contains .patternFlags &&
        !(operatorsOf entries).contains .pattern) = true
    · rw [if_pos alone]
      exact .fails _ _ () violated
    · rw [if_neg alone]
      exact .fails _ _ () violated

theorem comparisonKeys_of_together {entries : Entries} (together : Together (Entries.keys entries)) :
    ∀ entry ∈ entries, ComparisonKey entry.1 := by
  have compares : ∀ shape ∈ shapes, ∀ operator ∈ shape.operators, operator.isComparison = true := by
    decide
  intro entry member
  obtain ⟨⟨shape, listed, inside⟩, -⟩ := together
  obtain ⟨operator, kind, named⟩ := inside entry.1 (List.mem_map_of_mem member)
  exact ⟨operator, compares shape listed operator kind, named⟩

/-! ## Forms -/

def formOf : Value → Form
  | .atom _ => .plain
  | .list _ => .array
  | .map _ => .comparison

def noteForms (forms : List (Form × String)) (entries : Entries) : List (Form × String) :=
  entries.foldl (fun noted entry => noteForm noted (formOf entry.2) entry.1.chars) forms

theorem forms_noteForm (forms : List (Form × String)) (form : Form) (name : String) :
    (noteForm forms form name).map Prod.fst =
      if form ∈ forms.map Prod.fst then forms.map Prod.fst else forms.map Prod.fst ++ [form] := by
  have known : (forms.any fun noted => noted.1 == form) = true ↔ form ∈ forms.map Prod.fst := by
    simp only [List.any_eq_true, List.mem_map, beq_iff_eq]
  rw [noteForm]
  by_cases met : form ∈ forms.map Prod.fst
  · rw [if_pos (known.mpr met), if_pos met]
  · rw [if_neg (mt known.mp met), if_neg met, List.map_append]
    rfl

private theorem mem_noteForms {forms : List (Form × String)} {entries : Entries} {form : Form} :
    form ∈ (noteForms forms entries).map Prod.fst ↔
      form ∈ forms.map Prod.fst ∨ ∃ entry ∈ entries, formOf entry.2 = form := by
  induction entries generalizing forms with
  | nil => simp [noteForms]
  | cons entry entries ih =>
    have unfolded : noteForms forms (entry :: entries) =
      noteForms (noteForm forms (formOf entry.2) entry.1.chars) entries := rfl
    rw [unfolded, ih, forms_noteForm]
    by_cases met : formOf entry.2 ∈ forms.map Prod.fst
    · rw [if_pos met]
      grind
    · rw [if_neg met]
      grind

private theorem nodup_noteForms {forms : List (Form × String)} (entries : Entries)
    (distinct : (forms.map Prod.fst).Nodup) : ((noteForms forms entries).map Prod.fst).Nodup := by
  induction entries generalizing forms with
  | nil => exact distinct
  | cons entry entries ih =>
    refine ih ?_
    rw [forms_noteForm]
    by_cases met : formOf entry.2 ∈ forms.map Prod.fst
    · rw [if_pos met]
      exact distinct
    · rw [if_neg met]
      grind

private theorem length_le_one_iff {α : Type} {items : List α} (distinct : items.Nodup) :
    items.length ≤ 1 ↔ ∀ first ∈ items, ∀ second ∈ items, first = second := by
  match items with
  | [] => simp
  | [item] => simp
  | first :: second :: rest =>
    have different : first ≠ second := by grind
    simp [different]

theorem checkForms_decides (trail : Trail) (entries : Entries) :
    Decides (checkForms trail (noteForms [] entries))
      (∀ first ∈ entries, ∀ second ∈ entries, formOf first.2 = formOf second.2) () := by
  have distinct : ((noteForms [] entries).map Prod.fst).Nodup :=
    nodup_noteForms entries List.nodup_nil
  have single : (noteForms [] entries).length ≤ 1 ↔
      ∀ first ∈ entries, ∀ second ∈ entries, formOf first.2 = formOf second.2 := by
    rw [← List.length_map Prod.fst, length_le_one_iff distinct]
    simp only [mem_noteForms, List.map_nil, List.not_mem_nil, false_or]
    constructor
    · intro single first member second other
      exact single _ ⟨first, member, rfl⟩ _ ⟨second, other, rfl⟩
    · rintro same _ ⟨first, member, rfl⟩ _ ⟨second, other, rfl⟩
      exact same first member second other
  rw [checkForms]
  by_cases few : (noteForms [] entries).length ≤ 1
  · rw [if_pos few]
    exact .passes () (single.mp few)
  · rw [if_neg few]
    exact .fails _ _ () (mt single.mpr few)

end QueryGate.Filter
