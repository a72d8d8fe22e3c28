import QueryGate.Filter.Grammar
/-!
The grammar of canonical filters as rules, said without any check. A clause joins lists of clauses or puts
conditions of one form on fields; a comparison holds operators that may stand together, each with an
operand after its own rule.
-/

namespace QueryGate.Filter

/-! ## Leaves -/

/-- Finite numbers, truth values not among them. -/
inductive Number : Value → Prop
  | int (number : Int) : Number (.int number)
  | float (number : Double) (finite : number.isFinite = true) : Number (.atom (.float number))

inductive Scalar : Value → Prop
  | null : Scalar .null
  | bool (flag : Bool) : Scalar (.bool flag)
  | text (chars : String) : Scalar (.text chars)
  | date (moment : Calendar.Moment) : Scalar (.date moment)
  | number {value : Value} (number : Number value) : Scalar value

inductive ScalarList : Value → Prop
  | intro {items : List Value} (scalars : ∀ item ∈ items, Scalar item) : ScalarList (.list items)

inductive Ordered : Value → Prop
  | text (chars : String) : Ordered (.text chars)
  | date (moment : Calendar.Moment) : Ordered (.date moment)
  | map (entries : Entries) : Ordered (.map entries)
  | number {value : Value} (number : Number value) : Ordered value

inductive Count : Value → Prop
  | int (number : Int) (nonneg : 0 ≤ number) : Count (.int number)
  | float (number : Double) (finite : number.isFinite = true) (nonneg : number.isBelowZero = false) :
      Count (.atom (.float number))

inductive Flags : Value → Prop
  | intro (chars : String) (letters : ∀ c ∈ chars.toList, c = 'i' ∨ c = 'm' ∨ c = 'x' ∨ c = 's') :
      Flags (.text chars)

/-! ## Keys -/

/-- What the name of a field may start with. -/
def StartsName (c : Char) : Prop := 'a' ≤ c ∧ c ≤ 'z' ∨ 'A' ≤ c ∧ c ≤ 'Z' ∨ c = '_'

inductive FieldName : Atom → Prop
  | intro (name : String) (first : Char) (rest : List Char) (chars : name.toList = first :: rest)
      (start : StartsName first) : FieldName (.text name)

inductive CombinatorKey : Atom → Prop
  | both : CombinatorKey (.text "$and")
  | either : CombinatorKey (.text "$or")
  | neither : CombinatorKey (.text "$nor")

def Within (shape : Shape) (keys : List Atom) : Prop :=
  ∀ key ∈ keys, ∃ operator ∈ shape.operators, key = .text operator.key

/-- Keys that may stand together: they lie within one shape, and flags need a pattern. -/
def Together (keys : List Atom) : Prop :=
  (∃ shape ∈ shapes, Within shape keys) ∧
    (keys ≠ [] → (∀ shape ∈ shapes, Within shape keys → shape.operators = [.pattern, .patternFlags]) →
      .text "$regex" ∈ keys)

/-! ## Clauses and comparisons -/

mutual

/-- Clauses. The map without entries is one in every way. -/
inductive Clause : Value → Prop
  | joined {entries : Entries} (keys : ∀ entry ∈ entries, CombinatorKey entry.1)
      (values : ∀ entry ∈ entries, ClauseList entry.2) : Clause (.map entries)
  | plain {entries : Entries} (names : ∀ entry ∈ entries, FieldName entry.1)
      (values : ∀ entry ∈ entries, Scalar entry.2) : Clause (.map entries)
  | arrays {entries : Entries} (names : ∀ entry ∈ entries, FieldName entry.1)
      (values : ∀ entry ∈ entries, ScalarList entry.2) : Clause (.map entries)
  | compared {entries : Entries} (names : ∀ entry ∈ entries, FieldName entry.1)
      (values : ∀ entry ∈ entries, Comparison entry.2) : Clause (.map entries)

inductive ClauseList : Value → Prop
  | intro {clauses : List Value} (each : ∀ clause ∈ clauses, Clause clause) :
      ClauseList (.list clauses)

inductive Comparison : Value → Prop
  | intro {entries : Entries} (keys : Together (Entries.keys entries))
      (operands : ∀ entry ∈ entries, ∀ operator : Operator, entry.1 = .text operator.key →
        Operand operator entry.2) : Comparison (.map entries)

inductive Operand : Operator → Value → Prop
  | equality {operator : Operator} {operand : Value} (kind : operator ∈ [.eq, .ne])
      (scalar : Scalar operand) : Operand operator operand
  | order {operator : Operator} {operand : Value} (kind : operator ∈ [.gt, .gte, .lt, .lte])
      (ordered : Ordered operand) : Operand operator operand
  | membership {operator : Operator} {operand : Value}
      (kind : operator ∈ [.within, .notWithin, .all]) (scalars : ScalarList operand) :
      Operand operator operand
  | present (flag : Bool) : Operand .present (.bool flag)
  | size {operand : Value} (count : Count operand) : Operand .size operand
  | kindName (chars : String) : Operand .kind (.text chars)
  | kindNumber {operand : Value} (number : Number operand) : Operand .kind operand
  | pattern (chars : String) : Operand .pattern (.text chars)
  | patternFlags {operand : Value} (flags : Flags operand) : Operand .patternFlags operand
  | negated {operand : Value} (comparison : Comparison operand) : Operand .negated operand
  | elemMatch {operand : Value} (clause : Clause operand) : Operand .elemMatch operand

end

/-! ## Tests for leaves and keys -/

theorem isNumber_iff {value : Value} : isNumber value = true ↔ Number value := by
  constructor
  · intro test
    unfold isNumber at test
    split at test
    next number => exact .int number
    next number => exact .float number test
    next => cases test
  · intro number
    cases number with
    | int number => rfl
    | float number finite => exact finite

theorem isScalar_iff {value : Value} : isScalar value = true ↔ Scalar value := by
  constructor
  · intro test
    unfold isScalar at test
    split at test
    next number => exact .number (.float number test)
    next => cases test
    next leaf notFloat notBytes =>
      cases leaf with
      | null => exact .null
      | bool flag => exact .bool flag
      | int number => exact .number (.int number)
      | float number => exact absurd rfl (notFloat number)
      | text chars => exact .text chars
      | date moment => exact .date moment
      | bytes data => exact absurd rfl (notBytes data)
    next => cases test
  · intro scalar
    cases scalar with
    | number number =>
      cases number with
      | int number => rfl
      | float number finite => exact finite
    | _ => rfl

theorem isFlags_iff {value : Value} : isFlags value = true ↔ Flags value := by
  constructor
  · intro test
    unfold isFlags at test
    split at test
    next chars =>
      refine .intro chars fun c member => ?_
      have letter := List.all_eq_true.mp test c member
      simpa [patternFlagLetters] using letter
    next => cases test
  · intro flags
    obtain ⟨chars, letters⟩ := flags
    refine List.all_eq_true.mpr fun c member => ?_
    simpa [patternFlagLetters] using letters c member

theorem startsName_iff {c : Char} : (c.isAlpha || c == '_') = true ↔ StartsName c := by
  have letters : c.isAlpha = (decide ('A' ≤ c ∧ c ≤ 'Z') || decide ('a' ≤ c) && decide (c ≤ 'z')) := rfl
  rw [letters, StartsName]
  simp only [Bool.or_eq_true, Bool.and_eq_true, decide_eq_true_eq, beq_iff_eq]
  constructor
  · rintro ((upper | lower) | underscore)
    · exact .inr (.inl upper)
    · exact .inl lower
    · exact .inr (.inr underscore)
  · rintro (lower | upper | underscore)
    · exact .inl (.inr lower)
    · exact .inl (.inl upper)
    · exact .inr underscore

theorem isFieldName_iff {name : String} : isFieldName name = true ↔ FieldName (.text name) := by
  constructor
  · intro test
    unfold isFieldName at test
    split at test
    next => cases test
    next first rest chars => exact .intro name first rest chars (startsName_iff.mp test)
  · intro field
    obtain ⟨_, first, rest, chars, start⟩ := field
    rw [isFieldName, chars]
    exact startsName_iff.mpr start

theorem FieldName.not_isOperatorKey {key : Atom} (field : FieldName key) :
    isOperatorKey key.chars = false := by
  obtain ⟨name, first, rest, chars, start⟩ := field
  have different : first ≠ sigil := by
    rintro rfl
    exact absurd (startsName_iff.mpr start) (by decide)
  simpa [Atom.chars, isOperatorKey, chars] using different

theorem CombinatorKey.isOperatorKey {key : Atom} (joins : CombinatorKey key) :
    isOperatorKey key.chars = true := by
  cases joins <;> decide

theorem isCombinator_iff {name : String} :
    ((Operator.ofKey? name).any Operator.isCombinator) = true ↔ CombinatorKey (.text name) := by
  constructor
  · intro test
    cases found : Operator.ofKey? name with
    | none =>
      rw [found] at test
      cases test
    | some operator =>
      rw [found, Option.any_some] at test
      rw [← Operator.key_of_ofKey? found]
      cases operator with
      | both => exact .both
      | either => exact .either
      | neither => exact .neither
      | _ => cases test
  · intro key
    cases key <;> decide

end QueryGate.Filter
