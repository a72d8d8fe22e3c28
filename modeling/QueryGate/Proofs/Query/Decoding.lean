import QueryGate.Proofs.Filter.FiniteNumbers
import QueryGate.Proofs.Json.Reading
import QueryGate.Proofs.Number.Overflow
import QueryGate.Report
/-!
Filters as they come over the wire. Whatever a text holds, it is decoded to a map or refused, and a refusal
is reported as one of the query, unless a number in the text is out of all bounds: one with too many digits
is refused without a report, and one that is too large comes through as an infinity.
-/

namespace QueryGate.Query

open QueryGate.Json QueryGate.Filter QueryGate.Outcome

/-! ## Numbers out of bounds -/

/-- Numbers that are written without a fraction and without an exponent. -/
def IsWhole (numeral : Numeral) : Prop := numeral.fraction = [] ∧ numeral.exponent = none

def magnitude (numeral : Numeral) : ℚ :=
  digitsValue (numeral.whole ++ numeral.fraction) *
    10 ^ (numeral.exponent.getD 0 - numeral.fraction.length)

inductive Excessive (numeral : Numeral) : Prop
  | digits (whole : IsWhole numeral) (many : Number.digitLimit < numeral.whole.length)
  | size (decimal : ¬IsWhole numeral) (large : Double.overflowBound ≤ magnitude numeral)

variable {numeral : Numeral} {chars : List Char} {standIn : Nat → Char}

theorem isWhole_iff : (numeral.fraction.isEmpty && numeral.exponent.isNone) = true ↔ IsWhole numeral := by
  rw [Bool.and_eq_true, List.isEmpty_iff, Option.isNone_iff_eq_none, IsWhole]

/-- A number is read as a finite one exactly if it is within bounds. -/
theorem value_cases (numeral : Numeral) :
    ¬Excessive numeral ∧ (∃ value, numeral.value = .ok value ∧ HasFiniteNumbers value) ∨
      IsWhole numeral ∧ Number.digitLimit < numeral.whole.length ∧
        numeral.value = .error (.tooManyDigits numeral.whole.length) ∨
      ¬IsWhole numeral ∧ Double.overflowBound ≤ magnitude numeral ∧
        numeral.value = .ok (.atom (.float (Double.infinity numeral.negative))) := by
  rw [Numeral.value]
  by_cases whole : IsWhole numeral
  · rw [if_pos (isWhole_iff.mpr whole)]
    by_cases many : Number.digitLimit < numeral.whole.length
    · rw [if_pos many]
      exact .inr (.inl ⟨whole, many, rfl⟩)
    · rw [if_neg many]
      refine .inl ⟨?_, _, rfl, .atom fun _ same => by cases same⟩
      rintro (⟨-, excess⟩ | ⟨decimal, -⟩)
      · exact many excess
      · exact decimal whole
  · rw [if_neg (mt isWhole_iff.mp whole)]
    by_cases large : Double.overflowBound ≤ magnitude numeral
    · refine .inr (.inr ⟨whole, large, ?_⟩)
      dsimp only
      rw [Double.ofDecimal_of_overflow large]
    · refine .inl ⟨?_, _, rfl, ?_⟩
      · rintro (⟨plain, -⟩ | ⟨-, excess⟩)
        · exact whole plain
        · exact large excess
      · rw [hasFiniteNumbers_float, Double.ofDecimal_isFinite_iff]
        exact not_le.mp large

theorem not_excessive_of_value {value : Value} (read : numeral.value = .ok value)
    (finite : HasFiniteNumbers value) : ¬Excessive numeral := by
  rcases value_cases numeral with ⟨modest, -⟩ | ⟨-, -, refused⟩ | ⟨-, -, infinite⟩
  · exact modest
  · cases read.symm.trans refused
  · obtain rfl := Except.ok.inj (read.symm.trans infinite)
    rw [hasFiniteNumbers_float, Double.isFinite_infinity] at finite
    cases finite

private theorem hasFiniteNumbers_of_written {value : Value} (written : WrittenIn chars value)
    (modest : ∀ numeral, Spells chars numeral → ¬Excessive numeral) : HasFiniteNumbers value := by
  induction written with
  | null | bool | text => exact .atom fun _ same => by cases same
  | @number numeral value spelled read =>
    rcases value_cases numeral with ⟨-, other, same, finite⟩ | ⟨whole, many, -⟩ | ⟨decimal, large, -⟩
    · obtain rfl := Except.ok.inj (read.symm.trans same)
      exact finite
    · exact absurd (.digits whole many) (modest numeral spelled)
    · exact absurd (.size decimal large) (modest numeral spelled)
  | list _ ih => exact .list ih
  | map _ _ _ ih => exact .map fun entry member _ => ih entry member

/-! ## One condition -/

/-- The text of a filter with one condition, on a number that starts with a one. -/
def condition (spelling : List Char) : List Char :=
  '{' :: '"' :: 'a' :: '"' :: ':' :: '1' :: (spelling ++ ['}'])

private theorem readWith_one {inner : Option Reader} {place : Nat} {rest : List Char}
    (found : readNumeral? ('1' :: rest) = some numeral) :
    readWith standIn inner ⟨place, '1' :: rest⟩ =
      numeral.value.map fun value => (value, Cursor.advance ⟨place, '1' :: rest⟩ numeral.length) := by
  have plain : word? ('1' :: rest) = none := by rfl
  change readScalar standIn ⟨place, '1' :: rest⟩ = _
  unfold readScalar
  split
  next start => cases start
  next => simp only [plain, found]

theorem decodeFilter_number {spelling : List Char} {depth : Nat}
    (found : readNumeral? ('1' :: (spelling ++ ['}'])) = some numeral)
    (length : numeral.length = spelling.length + 1) :
    decodeFilter ⟨depth + 1, standIn⟩ (.text (String.ofList (condition spelling))) =
      objectOf (condition spelling) (numeral.value.map fun value => .map [(.text "a", value)]) := by
  have name : Json.readName standIn ⟨1, '"' :: 'a' :: '"' :: ':' :: '1' :: (spelling ++ ['}'])⟩ =
      .ok ("a", ⟨5, '1' :: (spelling ++ ['}'])⟩) := by
    have string : readString standIn 1 2 ('a' :: '"' :: ':' :: '1' :: (spelling ++ ['}'])) [] =
        .ok ("a", ⟨4, ':' :: '1' :: (spelling ++ ['}'])⟩) := by
      simp [readString]
    show (readString standIn 1 2 ('a' :: '"' :: ':' :: '1' :: (spelling ++ ['}'])) [] >>= _) = _
    rw [string]
    rfl
  have chars : (String.ofList (condition spelling)).toList = condition spelling := String.toList_ofList
  have item : readValue standIn depth ⟨5, '1' :: (spelling ++ ['}'])⟩ =
      numeral.value.map fun value => (value, ⟨spelling.length + 6, ['}']⟩) := by
    have behind : Cursor.advance ⟨5, '1' :: (spelling ++ ['}'])⟩ numeral.length =
        ⟨spelling.length + 6, ['}']⟩ := by
      rw [length, Cursor.advance, List.drop_succ_cons, List.drop_left]
      simp [Nat.add_comm]
    cases depth <;> rw [readValue, readWith_one found, behind]
  have opened : readValue standIn (depth + 1) (Cursor.skip ⟨0, condition spelling⟩) =
      readMembers standIn (readValue standIn depth) (('"' :: 'a' :: '"' :: ':' :: '1' :: (spelling ++ ['}'])).length + 1)
        ⟨1, '"' :: 'a' :: '"' :: ':' :: '1' :: (spelling ++ ['}'])⟩ [] := by
    rw [readValue]
    rfl
  have read : Decoder.readChars ⟨depth + 1, standIn⟩ (condition spelling) =
      numeral.value.map fun value => .map [(.text "a", value)] := by
    rw [Decoder.readChars, opened, readMembers, name]
    simp only [bind, Except.bind, item]
    cases numeral.value <;> rfl
  change decodeText _ _ = _
  have spoken : Text.isBlankText (String.ofList (condition spelling)) = false := by
    rw [Text.isBlankText, chars]
    rfl
  have unmarked : ((condition spelling).head? == some byteOrderMark) = false := rfl
  rw [decodeText, spoken, if_neg Bool.false_ne_true, chars, Decoder.read, chars, unmarked,
    if_neg Bool.false_ne_true, read]

theorem decodeFilter_value {spelling : List Char} {depth : Nat} {value : Value}
    (found : readNumeral? ('1' :: (spelling ++ ['}'])) = some numeral)
    (length : numeral.length = spelling.length + 1) (read : numeral.value = .ok value) :
    decodeFilter ⟨depth + 1, standIn⟩ (.text (String.ofList (condition spelling))) = .ok (.map [(.text "a", value)]) := by
  rw [decodeFilter_number found length, read]
  rfl

private theorem readNumeral?_ones (count : Nat) :
    readNumeral? ('1' :: (List.replicate count '1' ++ ['}'])) =
      some ⟨false, '1' :: List.replicate count '1', [], none, count + 1⟩ := by
  have whole : wholeDigits ('1' :: (List.replicate count '1' ++ ['}'])) =
      '1' :: List.replicate count '1' := by
    change (List.replicate (count + 1) '1' ++ ['}']).takeWhile isDigit = List.replicate (count + 1) '1'
    rw [List.takeWhile_append_of_pos]
    · exact List.append_nil _
    · intro digit member
      rw [List.eq_of_mem_replicate member]
      rfl
  simp [readNumeral?, whole, fractionDigits, readExponent?]

/-- Numbers with too many digits are refused without a report, however many the digits are. -/
theorem decodeFilter_ones {count depth : Nat} (many : Number.digitLimit ≤ count) :
    decodeFilter ⟨depth + 1, standIn⟩ (.text (String.ofList (condition (List.replicate count '1')))) =
      .error (.tooManyDigits (count + 1)) := by
  rw [decodeFilter_number (readNumeral?_ones count) (by simp)]
  have refused : Numeral.value ⟨false, '1' :: List.replicate count '1', [], none, count + 1⟩ =
      .error (.tooManyDigits (count + 1)) := by
    simp [Numeral.value, Nat.lt_succ_of_le many]
  rw [refused]
  rfl

/-! ## Texts -/

def Reported (problem : DecodeError) : Prop := ∃ message, problem.report? = some ⟨.query, message, []⟩

def Overlong (chars : List Char) (problem : DecodeError) : Prop :=
  ∃ numeral, Spells chars numeral ∧ IsWhole numeral ∧ Number.digitLimit < numeral.whole.length ∧
    problem = .tooManyDigits numeral.whole.length

private theorem ofReadError_cases {problem : ReadError} (founded : Founded chars problem) :
    Reported (.ofReadError chars problem) ∨ Overlong chars (.ofReadError chars problem) := by
  cases problem with
  | malformed fault place => exact .inl ⟨_, rfl⟩
  | nonFinite name => exact .inl ⟨_, rfl⟩
  | tooDeep => exact .inl ⟨_, rfl⟩
  | tooManyDigits count =>
    obtain ⟨numeral, spelled, refused⟩ := founded count rfl
    rcases value_cases numeral with ⟨-, _, read, -⟩ | ⟨whole, many, other⟩ | ⟨-, -, read⟩
    · cases refused.symm.trans read
    · cases refused.symm.trans other
      exact .inr ⟨numeral, spelled, whole, many, rfl⟩
    · cases refused.symm.trans read

private theorem meets_objectOf {outcome : Except ReadError Value}
    (met : Meets (WrittenIn chars) (Founded chars) outcome) :
    Meets (fun decoded => ∃ entries, decoded = .map entries ∧ WrittenIn chars (.map entries))
      (fun problem => Reported problem ∨ Overlong chars problem) (objectOf chars outcome) := by
  unfold objectOf
  split
  next problem => exact ofReadError_cases met
  next entries => exact ⟨entries, rfl, met⟩
  next => exact .inl ⟨_, rfl⟩

private theorem meets_decodeFilter (decoder : Decoder) (raw : Option String) :
    Meets (fun decoded => ∃ entries, decoded = .map entries ∧ WrittenIn (raw.getD "").toList (.map entries))
      (fun problem => Reported problem ∨ Overlong (raw.getD "").toList problem)
      (decodeFilter decoder (raw.elim .null .text)) := by
  have empty (chars : List Char) : WrittenIn chars .empty :=
    .map (List.forall_mem_nil _) .nil (List.forall_mem_nil _)
  cases raw with
  | none => exact ⟨[], rfl, empty _⟩
  | some text =>
    change Meets _ _ (decodeText decoder text)
    rw [decodeText]
    split
    next => exact ⟨[], rfl, empty _⟩
    next => exact meets_objectOf (meets_read decoder text)

/-- A filter text, or none, is decoded to a map that the text spells, whose keys are texts, none twice in one
map, or it is refused with a report on the query, or without one for a number in the text that has too many
digits. As long as no number in the text is out of bounds, all that is decoded has finite numbers only and all
that is refused is reported. -/
theorem decodeFilter_outcome (decoder : Decoder) (raw : Option String) :
    let outcome := decodeFilter decoder (raw.elim .null .text)
    let chars := (raw.getD "").toList
    ((∃ entries, outcome = .ok (.map entries) ∧ WrittenIn chars (.map entries)) ∨
      ∃ problem, outcome = .error problem ∧ (Reported problem ∨ Overlong chars problem)) ∧
    ((∀ numeral, Spells chars numeral → ¬Excessive numeral) →
      (∃ entries, outcome = .ok (.map entries) ∧ HasFiniteNumbers (.map entries)) ∨
        ∃ problem, outcome = .error problem ∧ Reported problem) := by
  intro outcome chars
  have met : Meets _ _ outcome := meets_decodeFilter decoder raw
  cases decoded : outcome with
  | error problem =>
    rw [decoded] at met
    refine ⟨.inr ⟨problem, rfl, met⟩, fun modest => .inr ⟨problem, rfl, met.resolve_right ?_⟩⟩
    rintro ⟨numeral, spelled, whole, many, -⟩
    exact modest numeral spelled (.digits whole many)
  | ok value =>
    rw [decoded] at met
    obtain ⟨entries, rfl, written⟩ := met
    exact ⟨.inl ⟨entries, rfl, written⟩, fun modest => .inl ⟨entries, rfl,
      hasFiniteNumbers_of_written written modest⟩⟩

/-- A text whose numbers are all within bounds. -/
theorem decodeFilter_outcome_modest :
    let text := "\x7b\"a\":1e4\x7d"
    (∀ numeral, Spells text.toList numeral → ¬Excessive numeral) ∧
      ∃ entries, decodeFilter .ofHundred (.text text) = .ok (.map entries) ∧ HasFiniteNumbers (.map entries) := by
  intro text
  have spelled : text = String.ofList (condition ['e', '4']) := rfl
  have power : Double.ofDecimal false 1 4 = ⟨0x40c3880000000000⟩ := by decide +kernel
  have read : Numeral.value ⟨false, ['1'], [], some 4, 3⟩ = .ok (.atom (.float ⟨0x40c3880000000000⟩)) := by
    rw [← power]
    rfl
  have modest : ∀ numeral, Spells text.toList numeral → ¬Excessive numeral := by
    intro numeral spells
    have numerals : (condition ['e', '4']).tails.filterMap readNumeral? =
        [⟨false, ['1'], [], some 4, 3⟩, ⟨false, ['4'], [], none, 1⟩] := by rfl
    rw [spells_iff, spelled, String.toList_ofList, numerals] at spells
    simp only [List.mem_cons, List.not_mem_nil, or_false] at spells
    rcases spells with rfl | rfl
    · exact not_excessive_of_value read (hasFiniteNumbers_float.mpr (by decide))
    · exact not_excessive_of_value rfl (.atom fun _ same => by cases same)
  rcases (decodeFilter_outcome .ofHundred (some text)).2 modest with accepted | ⟨problem, refused, -⟩
  · exact ⟨modest, accepted⟩
  · have found : readNumeral? ('1' :: (['e', '4'] ++ ['}'])) = some ⟨false, ['1'], [], some 4, 3⟩ := by rfl
    have decoded : decodeFilter .ofHundred (.text text) = .ok _ := spelled ▸ decodeFilter_value found rfl read
    cases decoded.symm.trans refused

/-- A number that is too large comes through as an infinity, and one with too many digits is refused without
a report. -/
theorem decoded_out_of_bounds :
    (∃ entries, decodeFilter .ofHundred (.text "\x7b\"a\":1e400\x7d") = .ok (.map entries) ∧
      ¬HasFiniteNumbers (.map entries)) ∧
    ∃ problem, decodeFilter .ofHundred (.text (String.ofList (condition (List.replicate 4300 '1')))) =
      .error problem ∧ ¬Reported problem := by
  have spelled : "\x7b\"a\":1e400\x7d" = String.ofList (condition ['e', '4', '0', '0']) := rfl
  have found : readNumeral? ('1' :: (['e', '4', '0', '0'] ++ ['}'])) =
      some ⟨false, ['1'], [], some 400, 5⟩ := by rfl
  have power : Double.ofDecimal false 1 400 = .infinity false := by decide +kernel
  have read : Numeral.value ⟨false, ['1'], [], some 400, 5⟩ = .ok (.atom (.float (.infinity false))) := by
    rw [← power]
    rfl
  refine ⟨⟨_, spelled ▸ decodeFilter_value found rfl read, ?_⟩, _, decodeFilter_ones le_rfl, ?_⟩
  · intro finite
    have number := hasFiniteNumbers_map.mp finite _ (List.mem_cons_self ..)
    rw [hasFiniteNumbers_float, Double.isFinite_infinity] at number
    cases number
  · rintro ⟨message, reported⟩
    cases reported

end QueryGate.Query
