import QueryGate.Filter.Grammar
import QueryGate.Proofs.Outcome
import QueryGate.Proofs.Value.Tree
/-!
Where flaws are found. The trail that a check reports a flaw with leads down from the value it was given to a
part of that value, so it goes over keys and positions that the value has. Every flaw that a check reports can
be put into words, and so can every place behind keys that are texts.
-/

namespace QueryGate.Filter

open QueryGate.Outcome

/-! ## Ways down -/

inductive Inside : Value → Trail → Prop
  | here (value : Value) : Inside value []
  | entry {entries : Entries} {key : Atom} {part : Value} {trail : Trail}
      (member : (key, part) ∈ entries) (inside : Inside part trail) :
      Inside (.map entries) (trail ++ [.key key])
  | item {items : List Value} {index : Nat} {part : Value} {trail : Trail}
      (found : items[index]? = some part) (inside : Inside part trail) :
      Inside (.list items) (trail ++ [.index index])

theorem Inside.mem_everyKey {value : Value} {trail : Trail} (inside : Inside value trail) {key : Atom}
    (passed : .key key ∈ trail) : key ∈ value.everyKey := by
  induction inside with
  | here value => cases passed
  | entry member inside ih =>
    rw [Value.mem_everyKey_map]
    refine ⟨_, member, ?_⟩
    rcases List.mem_append.mp passed with below | first
    · exact .inr (ih below)
    · exact .inl (Step.key.inj (List.mem_singleton.mp first))
  | item found inside ih =>
    rw [Value.mem_everyKey_list]
    refine ⟨_, List.mem_of_getElem? found, ?_⟩
    rcases List.mem_append.mp passed with below | first
    · exact ih below
    · cases List.mem_singleton.mp first

def HasTextSteps (trail : Trail) : Prop := ∀ key, .key key ∈ trail → ∃ name, key = .text name

theorem HasTextSteps.exists_label? {trail : Trail} (texts : HasTextSteps trail) :
    ∃ name, trail.label? = some (.text name) := by
  induction trail with
  | nil => exact ⟨"", rfl⟩
  | cons step trail ih =>
    obtain ⟨label, labelled⟩ := ih fun key passed => texts key (List.mem_cons_of_mem _ passed)
    cases step with
    | index position => exact ⟨label ++ "[" ++ toString position ++ "]", by rw [Trail.label?, labelled]; rfl⟩
    | key name =>
      obtain ⟨name, rfl⟩ := texts name (List.mem_cons_self ..)
      rw [Trail.label?, labelled]
      change ∃ shown, joinKey? (.text label) (.text name) = some (.text shown)
      unfold joinKey?
      split
      next => exact ⟨name, rfl⟩
      next => exact ⟨label ++ "." ++ name, rfl⟩

/-- Flaws are reported inside a value that the check has come to, and in words. -/
def PlacedIn (value : Value) (outer : Trail) (rejection : Rejection) : Prop :=
  ∀ problem trail, rejection = .flaw problem trail →
    problem.detail?.isSome = true ∧ ∃ inner, Inside value inner ∧ trail = inner ++ outer

abbrev Locates {α : Type} (value : Value) (outer : Trail) (check : Except Rejection α) : Prop :=
  Meets (fun _ => True) (PlacedIn value outer) check

variable {α β : Type} {value : Value} {entries : Entries} {trail outer : Trail}

theorem Locates.bind {first : Except Rejection α} {next : α → Except Rejection β}
    (located : Locates value outer first) (later : ∀ result, Locates value outer (next result)) :
    Locates value outer (first >>= next) :=
  Meets.bind located fun result _ => later result

theorem locates_reject (value : Value) (outer : Trail) (problem : Flaw)
    (told : problem.detail?.isSome = true := by rfl) :
    Locates value outer (reject problem outer : Except Rejection α) := by
  intro _ _ same
  obtain ⟨rfl, rfl⟩ := Rejection.flaw.inj same
  exact ⟨told, [], .here value, rfl⟩

/-- A key that is no text is refused without a place. -/
theorem locates_foreignKey (value : Value) (outer : Trail) (key : Atom) :
    Locates value outer (.error (.foreignKey key) : Except Rejection α) := by
  intro _ _ same
  cases same

theorem Locates.entry {key : Atom} {part : Value} {check : Except Rejection α}
    (member : (key, part) ∈ entries) (located : Locates part (.key key :: outer) check) :
    Locates (.map entries) outer check := by
  cases check with
  | ok result => exact trivial
  | error rejection =>
    intro problem trail same
    obtain ⟨told, inner, inside, rfl⟩ := located problem trail same
    exact ⟨told, inner ++ [.key key], .entry member inside, List.append_cons ..⟩

theorem Locates.item {items : List Value} {index : Nat} {part : Value} {check : Except Rejection α}
    (found : items[index]? = some part) (located : Locates part (.index index :: outer) check) :
    Locates (.list items) outer check := by
  cases check with
  | ok result => exact trivial
  | error rejection =>
    intro problem trail same
    obtain ⟨told, inner, inside, rfl⟩ := located problem trail same
    exact ⟨told, inner ++ [.index index], .item found inside, List.append_cons ..⟩

/-! ## Checks -/

theorem getElem?_of_drop {whole items : List Value} {index : Nat} {item : Value}
    (rest : whole.drop index = item :: items) :
    whole[index]? = some item ∧ whole.drop (index + 1) = items := by
  constructor
  · rw [← List.head?_drop, rest, List.head?_cons]
  · rw [← List.tail_drop, rest, List.tail_cons]

theorem checkScalars_locates (trail : Trail) {whole items : List Value} {index : Nat}
    (rest : whole.drop index = items) : Locates (.list whole) trail (checkScalars trail index items) := by
  induction items generalizing index with
  | nil => exact trivial
  | cons item items ih =>
    obtain ⟨found, behind⟩ := getElem?_of_drop rest
    rw [checkScalars]
    split
    next => exact ih behind
    next => exact .item found (locates_reject item (.index index :: trail) _)

private theorem textKeys_locates (value : Value) (trail : Trail) (entries : Entries) :
    Locates value trail (textKeys entries) := by
  induction entries with
  | nil => exact trivial
  | cons entry entries ih =>
    rcases entry with ⟨key, part⟩
    cases key with
    | text name => exact Meets.map ih fun _ _ => trivial
    | _ => exact locates_foreignKey value trail _

private theorem comparisonOperators_locates (trail : Trail) {whole : Entries}
    (among : ∀ entry ∈ entries, entry ∈ whole) :
    Locates (.map whole) trail (comparisonOperators trail entries) := by
  induction entries with
  | nil => exact trivial
  | cons entry entries ih =>
    rcases entry with ⟨key, operand⟩
    obtain ⟨member, rest⟩ := List.forall_mem_cons.mp among
    cases key with
    | text name =>
      rw [comparisonOperators]
      split
      next => exact .entry member (locates_reject operand _ _)
      next =>
        split
        next => exact Meets.map (ih rest) fun _ _ => trivial
        next => exact .entry member (locates_reject operand _ _)
    | _ => exact locates_foreignKey _ trail _

private theorem checkCombination_locates (value : Value) (trail : Trail) (operators : List Operator) :
    Locates value trail (checkCombination trail operators) := by
  rw [checkCombination]
  split
  next => exact trivial
  next => split <;> exact locates_reject value trail _

private theorem checkForms_locates (value : Value) (trail : Trail) (forms : List (Form × String)) :
    Locates value trail (checkForms trail forms) := by
  rw [checkForms]
  split
  next => exact trivial
  next => exact locates_reject value trail _

structure FlawsInside (value : Value) : Prop where
  clause (trail : Trail) : Locates value trail (checkClause trail value)
  comparison (trail : Trail) : Locates value trail (checkComparison trail value)
  clauses (items : List Value) (same : value = .list items) (trail : Trail) :
    Locates value trail (checkClauses trail 0 items)

private theorem checkClauses_locates (trail : Trail) {whole items : List Value} {index : Nat}
    (rest : whole.drop index = items) (each : ∀ item ∈ items, FlawsInside item) :
    Locates (.list whole) trail (checkClauses trail index items) := by
  induction items generalizing index with
  | nil => exact trivial
  | cons item items ih =>
    obtain ⟨found, behind⟩ := getElem?_of_drop rest
    obtain ⟨here, others⟩ := List.forall_mem_cons.mp each
    rw [checkClauses]
    exact Locates.bind (.item found (here.clause (.index index :: trail))) fun _ => ih behind others

private theorem checkCombinators_locates (trail : Trail) {whole : Entries}
    (each : ∀ entry ∈ entries, entry ∈ whole ∧ FlawsInside entry.2) :
    Locates (.map whole) trail (checkCombinators trail entries) := by
  induction entries with
  | nil => exact trivial
  | cons entry entries ih =>
    rcases entry with ⟨key, part⟩
    obtain ⟨⟨member, here⟩, others⟩ := List.forall_mem_cons.mp each
    have later := ih others
    unfold checkCombinators
    dsimp only
    split
    next => exact .entry member (locates_reject part _ _)
    next =>
      cases part with
      | list clauses =>
        exact Locates.bind (.entry member (here.clauses clauses rfl (.key key :: trail))) fun _ => later
      | _ => exact .entry member (locates_reject _ _ _)

private theorem checkFields_locates (trail : Trail) {whole : Entries} (forms : List (Form × String))
    (each : ∀ entry ∈ entries, entry ∈ whole ∧ FlawsInside entry.2) :
    Locates (.map whole) trail (checkFields trail forms entries) := by
  induction entries generalizing forms with
  | nil => exact trivial
  | cons entry entries ih =>
    rcases entry with ⟨key, part⟩
    obtain ⟨⟨member, here⟩, others⟩ := List.forall_mem_cons.mp each
    have later forms := ih forms others
    unfold checkFields
    dsimp only
    split
    next => exact .entry member (locates_reject part _ _)
    next =>
      cases part with
      | atom leaf =>
        dsimp only
        split
        next => exact later _
        next => exact .entry member (locates_reject _ _ _)
      | list items =>
        exact Locates.bind (.entry member (checkScalars_locates (.key key :: trail) rfl)) fun _ => later _
      | map fields =>
        exact Locates.bind (.entry member (here.comparison (.key key :: trail))) fun _ => later _

private theorem checkOperands_locates (trail : Trail) {whole : Entries}
    (each : ∀ entry ∈ entries, entry ∈ whole ∧ FlawsInside entry.2) :
    Locates (.map whole) trail (checkOperands trail entries) := by
  induction entries with
  | nil => exact trivial
  | cons entry entries ih =>
    rcases entry with ⟨key, operand⟩
    obtain ⟨⟨member, here⟩, others⟩ := List.forall_mem_cons.mp each
    have later := ih others
    unfold checkOperands
    dsimp only
    split
    next => exact .entry member (locates_reject operand _ _)
    next operator found =>
      split
      next => exact .entry member (locates_reject operand _ _)
      next =>
        split
        next items _ _ =>
          exact Locates.bind (.entry member (checkScalars_locates (.key key :: trail) rfl)) fun _ => later
        next => exact Locates.bind (.entry member (here.comparison (.key key :: trail))) fun _ => later
        next => exact Locates.bind (.entry member (here.clause (.key key :: trail))) fun _ => later
        next => exact later

theorem flawsInside (value : Value) : FlawsInside value := by
  induction value using Value.treeInduction with
  | atom leaf => exact ⟨fun trail => locates_reject _ trail _, fun trail => locates_reject _ trail _, nofun⟩
  | list items ih =>
    refine ⟨fun trail => locates_reject _ trail _, fun trail => locates_reject _ trail _, ?_⟩
    rintro others same trail
    obtain rfl := Value.list.inj same
    exact checkClauses_locates trail rfl ih
  | map entries ih =>
    have each : ∀ entry ∈ entries, entry ∈ entries ∧ FlawsInside entry.2 :=
      fun entry member => ⟨member, ih entry member⟩
    constructor
    · intro trail
      rw [checkClause]
      refine Locates.bind (textKeys_locates _ trail entries) fun keys => ?_
      dsimp only
      split
      next => exact locates_reject _ trail _
      next =>
        split
        next => exact checkCombinators_locates trail each
        next =>
          exact Locates.bind (checkFields_locates trail [] each) fun forms =>
            checkForms_locates _ trail forms
    · intro trail
      rw [checkComparison]
      refine Locates.bind (comparisonOperators_locates trail fun _ member => member) fun operators => ?_
      refine Locates.bind (checkCombination_locates _ trail operators) fun _ => ?_
      exact checkOperands_locates trail each
    · nofun

end QueryGate.Filter
