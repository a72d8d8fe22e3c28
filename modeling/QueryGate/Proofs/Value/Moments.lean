import QueryGate.Proofs.Calendar.IsoRoundTrip
import QueryGate.Proofs.Value.DateInput
/-!
The moments that values are read as. Dates, timestamps and texts come to one form: a moment with a known
offset, which is read as itself, and so is its text unless the offset is finer than a second. A whole
number is a timestamp exactly if it falls in the supported years, and every value is read or refused by
an error of its own kind.
-/

namespace QueryGate

open QueryGate.Calendar QueryGate.Text

/-! ## Texts of moments -/

private theorem spellZulu_eq_self {chars : List Char} (bare : ∀ c ∈ chars, c ≠ 'Z') :
    spellZulu chars = chars := by
  induction chars with
  | nil => rfl
  | cons c rest ih =>
    obtain ⟨plain, later⟩ := List.forall_mem_cons.mp bare
    have tail := ih later
    rw [spellZulu] at tail
    rw [spellZulu, List.flatMap_cons, tail, beq_eq_false_iff_ne.mpr plain]
    rfl

private theorem isBlank_of_isAsciiDigit {c : Char} (digit : isAsciiDigit c = true) : isBlank c = false := by
  simp only [isAsciiDigit, Bool.and_eq_true, decide_eq_true_eq] at digit
  have least : 48 ≤ c.toNat := digit.1
  have greatest : c.toNat ≤ 57 := digit.2
  have apart : ∀ span ∈ blankSpans, span.2 < 48 ∨ 57 < span.1 := by decide
  rw [← Bool.not_eq_true, isBlank, inSpans_iff]
  rintro ⟨span, listed, start, stop⟩
  have outside := apart span listed
  omega

/-- The text of a moment has no blanks around it and no letter for universal time in it. -/
theorem momentOfText?_isoText {moment : Moment}
    (whole : ∀ offset ∈ moment.offset, 1000000 ∣ offset.microseconds) :
    momentOfText? moment.isoText = some moment.inUniversalTime := by
  have solid : ∀ c ∈ moment.isoText.toList, isBlank c = false :=
    moment.forall_mem_isoText (fun _ => isBlank_of_isAsciiDigit) rfl rfl rfl rfl rfl
  have bare : ∀ c ∈ moment.isoText.toList, c ≠ 'Z' := by
    refine moment.forall_mem_isoText ?_ (by decide) (by decide) (by decide) (by decide) (by decide)
    rintro c digit rfl
    exact absurd digit (by decide)
  have stripped : stripChars moment.isoText.toList = moment.isoText.toList :=
    stripChars_eq_self (fun c first => solid c (List.mem_of_mem_head? first))
      (fun c last => solid c (List.mem_of_mem_getLast? last))
  rw [momentOfText?, stripped, spellZulu_eq_self bare, Moment.ofIsoChars?_isoText whole]
  rfl

private theorem isNullMarker_isoText (moment : Moment) : (Value.text moment.isoText).isNullMarker = false := by
  have long : 10 < moment.isoText.toList.length := by
    rw [moment.toList_isoText, List.length_append, moment.date.length_isoText, List.length_cons]
    omega
  simp only [Value.isNullMarker, nullTexts, List.contains_cons, List.contains_nil, Bool.or_false,
    Bool.or_eq_false_iff, beq_eq_false_iff_ne]
  constructor
  · intro same
    rw [same] at long
    exact absurd long (by decide)
  · intro same
    rw [same] at long
    exact absurd long (by decide)

/-! ## Refusals -/

/-- Which error refuses a value: every kind has its own, and it names what it refuses. -/
inductive DateError.Refuses : DateError → Value → Prop
  | flag (flag : Bool) : Refuses (.boolean flag) (.bool flag)
  | whole (seconds : Int) (cause : TimestampError) :
    Refuses (.timestamp (.int seconds) cause) (.int seconds)
  | fractional (seconds : Double) (cause : TimestampError) :
    Refuses (.timestamp (.float seconds) cause) (.atom (.float seconds))
  | text (chars : String) : Refuses (.unreadable chars) (.text chars)
  | bytes (data : List UInt8) : Refuses (.unsupported "bytes") (.atom (.bytes data))
  | list (items : List Value) : Refuses (.unsupported "list") (.list items)
  | map (entries : Entries) : Refuses (.unsupported "dict") (.map entries)

theorem timestampOutcome_eq_error {number : Atom} {read : Except TimestampError Moment}
    {error : DateError} (refused : timestampOutcome number read = .error error) :
    ∃ cause, error = .timestamp number cause := by
  cases read with
  | ok => cases refused
  | error cause => exact ⟨cause, (Except.error.inj refused).symm⟩

namespace Value

private theorem refuses_of_toMoment? {value : Value} {error : DateError}
    (refused : value.toMoment? = .error error) : error.Refuses value := by
  unfold toMoment? at refused
  split at refused
  next => cases refused
  next present =>
    cases value with
    | list items => cases refused; exact .list items
    | map entries => cases refused; exact .map entries
    | atom leaf =>
      cases leaf with
      | null => exact absurd rfl present
      | bool flag => cases refused; exact .flag flag
      | int seconds =>
        obtain ⟨cause, rfl⟩ := timestampOutcome_eq_error refused
        exact .whole seconds cause
      | float seconds =>
        obtain ⟨cause, rfl⟩ := timestampOutcome_eq_error refused
        exact .fractional seconds cause
      | text chars =>
        dsimp only at refused
        split at refused
        next => cases refused
        next => cases refused; exact .text chars
      | date moment => cases refused
      | bytes data => cases refused; exact .bytes data

private theorem toMoment?_isoText {moment : Moment} (aware : moment.isAware = true)
    (whole : ∀ offset ∈ moment.offset, 1000000 ∣ offset.microseconds) :
    (text moment.isoText).toMoment? = .ok (some moment) := by
  rw [toMoment?, if_neg (Bool.eq_false_iff.mp (isNullMarker_isoText moment))]
  simp only [momentOfText?_isoText whole, inUniversalTime_of_isAware aware]

theorem toMoment?_int_eq_ok_iff {seconds : Int} {found : Option Moment} :
    (int seconds).toMoment? = .ok found ↔ ∃ moment, found = some moment ∧
      moment.offset = some Offset.utc ∧ moment.instant = epoch.instant + seconds * 1000000 := by
  show timestampOutcome (.int seconds) (momentOfInt seconds) = _ ↔ _
  constructor
  · intro read
    cases named : momentOfInt seconds with
    | error cause =>
      rw [named] at read
      cases read
    | ok moment =>
      rw [named] at read
      exact ⟨moment, (Except.ok.inj read).symm, momentOfInt_eq_ok_iff.mp named⟩
  · rintro ⟨moment, rfl, distance⟩
    exact timestampOutcome_eq_ok.mpr (momentOfInt_eq_ok_iff.mpr distance)

private theorem exists_toMoment?_int_iff {seconds : Int} :
    (∃ found, (int seconds).toMoment? = .ok found) ↔ ∃ moment, momentOfInt seconds = .ok moment := by
  constructor
  · rintro ⟨found, read⟩
    obtain ⟨moment, -, distance⟩ := toMoment?_int_eq_ok_iff.mp read
    exact ⟨moment, momentOfInt_eq_ok_iff.mpr distance⟩
  · rintro ⟨moment, named⟩
    exact ⟨some moment, timestampOutcome_eq_ok.mpr named⟩

/-- Every moment that is read has a known offset, is read as itself, and so is its text if the offset is
a whole number of seconds. A whole number is read exactly if it lies in the supported years, and then as
the moment in universal time so many seconds after the start of 1970, a day's worth of seconds being the
step to the next date. What is not read is refused by the error of its kind. -/
theorem toMoment?_stable_and_exact :
    (∀ (value : Value) (moment : Moment), value.toMoment? = .ok (some moment) →
      moment.isAware = true ∧ (date moment).toMoment? = .ok (some moment) ∧
        ((∀ offset ∈ moment.offset, 1000000 ∣ offset.microseconds) →
          (text moment.isoText).toMoment? = .ok (some moment))) ∧
    (∀ seconds : Int,
      ((∃ found, (int seconds).toMoment? = .ok found) ↔
        -62135596800 ≤ seconds ∧ seconds ≤ 253402300799) ∧
      (∀ found, (int seconds).toMoment? = .ok found ↔ ∃ moment, found = some moment ∧
        moment.offset = some Offset.utc ∧ moment.instant = epoch.instant + seconds * 1000000) ∧
      ∀ moment later, (int seconds).toMoment? = .ok (some moment) → moment.date.next? = some later →
        (int (seconds + 86400)).toMoment? = .ok (some { moment with date := later })) ∧
    (∀ value : Value, (∃ found, value.toMoment? = .ok found) ∨
      ∃ error, value.toMoment? = .error error ∧ error.Refuses value) := by
  refine ⟨fun value moment read => ?_, fun seconds => ⟨?_, fun found => toMoment?_int_eq_ok_iff, ?_⟩,
    fun value => ?_⟩
  · have aware := isAware_of_toMoment? read moment rfl
    exact ⟨aware, toMoment?_ofMoment? (isAware_of_toMoment? read), toMoment?_isoText aware⟩
  · rw [exists_toMoment?_int_iff, exists_momentOfInt_iff]
  · intro moment later read next
    exact timestampOutcome_eq_ok.mpr (momentOfInt_next_day (timestampOutcome_eq_ok.mp read) next)
  · cases read : value.toMoment? with
    | ok found => exact .inl ⟨found, rfl⟩
    | error error => exact .inr ⟨error, rfl, refuses_of_toMoment? read⟩

def leapEve : Moment :=
  ⟨⟨2020, 2, 28, by decide⟩, ⟨23, 59, 59, 500000, by decide⟩, some ⟨-19800000000, by decide⟩⟩

theorem toMoment?_stable_and_exact_leap_eve :
    (text " 2020-02-28 23:59:59.5-0530").toMoment? = .ok (some leapEve) ∧
      (date leapEve).toMoment? = .ok (some leapEve) ∧
      (text leapEve.isoText).toMoment? = .ok (some leapEve) ∧
      (int 1582848000).toMoment? =
        .ok (some ⟨⟨2020, 2, 28, by decide⟩, Clock.midnight, some Offset.utc⟩) ∧
      (int 1582934400).toMoment? =
        .ok (some ⟨⟨2020, 2, 29, by decide⟩, Clock.midnight, some Offset.utc⟩) ∧
      (∃ found, (int 253402300799).toMoment? = .ok found) ∧
      ¬∃ found, (int 253402300800).toMoment? = .ok found := by
  have read : (text " 2020-02-28 23:59:59.5-0530").toMoment? = .ok (some leapEve) := by rfl
  have day : (int 1582848000).toMoment? =
      .ok (some ⟨⟨2020, 2, 28, by decide⟩, Clock.midnight, some Offset.utc⟩) := by rfl
  obtain ⟨stable, exactly, -⟩ := toMoment?_stable_and_exact
  obtain ⟨-, again, printed⟩ := stable _ _ read
  have whole : ∀ offset ∈ leapEve.offset, 1000000 ∣ offset.microseconds := by decide
  exact ⟨read, again, printed whole, day, (exactly 1582848000).2.2 _ _ day rfl,
    (exactly 253402300799).1.mpr (by decide), mt (exactly 253402300800).1.mp (by decide)⟩

end Value

end QueryGate
