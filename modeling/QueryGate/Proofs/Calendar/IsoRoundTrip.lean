import Mathlib.Algebra.Group.Nat.Defs
import QueryGate.Calendar.IsoPrinter
import QueryGate.Calendar.IsoReader
import QueryGate.Proofs.Calendar.Days
/-!
Printing a moment and reading the text back. A number padded to a width is read as that number, and what
follows it is left; the reader therefore takes the printed date, time and offset apart where the printer
put them together. A moment comes back as it was, but for an offset finer than a second: the offset's own
text is read to the second only if that second is not zero.
-/

namespace QueryGate.Calendar

/-! ## Numbers -/

theorem padded_length {width number : Nat} (wide : 1 ≤ width) (fits : number < 10 ^ width) :
    (padded width number).length = width := by
  have digits := (Nat.length_toDigits_le_iff (by decide : 1 < 10) wide).mpr fits
  simp only [padded, List.length_append, List.length_replicate]
  omega

theorem isAsciiDigit_of_mem_padded {width number : Nat} {c : Char} (inside : c ∈ padded width number) :
    isAsciiDigit c = true := by
  rcases List.mem_append.mp inside with filled | digit
  · rw [List.eq_of_mem_replicate filled]
    decide
  · have plain := Nat.isDigit_of_mem_toDigits (by decide) (by decide) digit
    exact plain

theorem exists_padded_eq_cons {width number : Nat} (wide : 1 ≤ width) (fits : number < 10 ^ width) :
    ∃ c rest, padded width number = c :: rest ∧ isAsciiDigit c = true := by
  have count := padded_length wide fits
  obtain ⟨c, rest, digits⟩ : ∃ c rest, padded width number = c :: rest := by
    apply List.exists_cons_of_length_pos
    omega
  refine ⟨c, rest, digits, isAsciiDigit_of_mem_padded (?_ : c ∈ padded width number)⟩
  rw [digits]
  exact List.mem_cons_self

theorem padded_append_ne_nil {width number : Nat} (wide : 1 ≤ width) (fits : number < 10 ^ width)
    (rest : List Char) : padded width number ++ rest ≠ [] := by
  obtain ⟨c, digits, same, -⟩ := exists_padded_eq_cons wide fits
  rw [same]
  exact List.cons_ne_nil _ _

private theorem value_zeros (count : Nat) :
    (List.replicate count '0').foldl (fun read c => read * 10 + (c.toNat - 48)) 0 = 0 := by
  induction count with
  | zero => rfl
  | succ count ih => exact ih

private theorem value_padded (width number : Nat) :
    (padded width number).foldl (fun read c => read * 10 + (c.toNat - 48)) 0 = number := by
  have digits := Nat.ofDigitChars_toDigits (b := 10) (n := number) (by decide) (by decide)
  rw [padded, List.foldl_append, value_zeros]
  simp only [Nat.mul_comm _ 10]
  exact digits

/-- A padded number is read whole, whatever follows it. -/
theorem readNumber?_padded {width number : Nat} (wide : 1 ≤ width) (fits : number < 10 ^ width)
    (rest : List Char) : readNumber? width (padded width number ++ rest) = some (number, rest) := by
  have count := padded_length wide fits
  have digits : (padded width number).all isAsciiDigit = true :=
    List.all_eq_true.mpr fun c => isAsciiDigit_of_mem_padded
  simp only [readNumber?, List.take_left' count, List.drop_left' count, count, digits, value_padded,
    decide_true, Bool.and_self, if_true]

/-! ## Dates -/

namespace Date

theorem fits (date : Date) : date.year < 10 ^ 4 ∧ date.month < 10 ^ 2 ∧ date.day < 10 ^ 2 := by
  have ⟨_, year, _, month, _, day⟩ := date.valid
  have longest := monthLength_between date.year date.month
  unfold lastYear at year
  omega

theorem length_isoText (date : Date) : date.isoText.length = 10 := by
  have ⟨year, month, day⟩ := date.fits
  simp only [isoText, List.length_append, List.length_cons, padded_length (by decide) year,
    padded_length (by decide) month, padded_length (by decide) day]

end Date

theorem charAt_append {front : List Char} {place : Nat} (size : front.length = place) (c : Char)
    (rest : List Char) : charAt (front ++ c :: rest) place = c := by
  rw [charAt, List.getElem?_append_right (Nat.le_of_eq size), size, Nat.sub_self]
  rfl

private theorem dateLength_isoText (date : Date) (rest : List Char) :
    dateLength (date.isoText ++ rest) = 10 := by
  have ⟨year, month, _⟩ := date.fits
  have long : (date.isoText ++ rest).length ≠ 7 := by
    rw [List.length_append, date.length_isoText]
    omega
  obtain ⟨c, digits, monthText, digit⟩ := exists_padded_eq_cons (by decide : 1 ≤ 2) month
  have yearText := padded_length (by decide) year
  have hyphen : charAt (date.isoText ++ rest) 4 = '-' := by
    simp only [Date.isoText, List.append_assoc, List.cons_append]
    exact charAt_append yearText _ _
  have first : charAt (date.isoText ++ rest) 5 = c := by
    simp only [Date.isoText, List.append_assoc, List.cons_append, monthText]
    rw [List.append_cons]
    exact charAt_append (by rw [List.length_append, yearText]; rfl) _ _
  -- no month starts with the letter of a week date
  have noWeek : c ≠ 'W' := by
    rintro rfl
    exact absurd digit (by decide)
  simp only [dateLength, long, hyphen, first, beq_self_eq_true, beq_iff_eq, noWeek, if_true, if_false]

private theorem readDate?_isoText (date : Date) : readDate? date.isoText = some date := by
  have ⟨year, month, day⟩ := date.fits
  have lastPart := readNumber?_padded (by decide) day []
  rw [List.append_nil] at lastPart
  simp only [readDate?, Date.isoText, List.append_assoc, readNumber?_padded (by decide) year,
    Option.bind_eq_bind, Option.bind_some, List.cons_append, List.head?_cons, beq_self_eq_true, if_true,
    List.drop_succ_cons, List.drop_zero]
  split
  next weekDate =>
    obtain ⟨c, digits, monthText, digit⟩ := exists_padded_eq_cons (by decide : 1 ≤ 2) month
    rw [monthText, List.cons_append] at weekDate
    obtain ⟨rfl, -⟩ := List.cons.inj weekDate
    exact absurd digit (by decide)
  next =>
    simp only [readNumber?_padded (by decide) month, passHyphen?, if_true, Option.bind_some, lastPart]
    exact date.ofParts?_parts

/-! ## Times of day -/

theorem afterNumber_colon (next : Char) {rest : List Char} (more : rest ≠ []) :
    afterNumber true next (':' :: rest) = .number rest := by
  obtain ⟨c, tail, rfl⟩ := List.exists_cons_of_ne_nil more
  rfl

private theorem afterNumber_point (next : Char) {rest : List Char} (more : rest ≠ []) :
    afterNumber true next ('.' :: rest) = .fraction rest := by
  obtain ⟨c, tail, rfl⟩ := List.exists_cons_of_ne_nil more
  rfl

private theorem readFraction?_padded (next : Char) (hour minute second : Nat) {microsecond : Nat}
    (fits : microsecond < 10 ^ 6) : readFraction? next hour minute second (padded 6 microsecond) =
      some ⟨hour, minute, second, microsecond, next != endMark⟩ := by
  have read := readNumber?_padded (by decide) fits []
  rw [List.append_nil] at read
  simp only [readFraction?, padded_length (by decide) fits, Nat.min_self, read, Option.bind_eq_bind,
    Option.bind_some, Nat.sub_self, List.dropWhile_nil, List.headD_nil]
  rw [show Nat.pow 10 0 = 1 from rfl, Nat.mul_one]

theorem readClock?_colons (next : Char) {hour minute second microsecond : Nat}
    (hourFits : hour < 10 ^ 2) (minuteFits : minute < 10 ^ 2) (secondFits : second < 10 ^ 2)
    (microsecondFits : microsecond < 10 ^ 6) :
    readClock? next (padded 2 hour ++ ':' :: padded 2 minute ++ ':' :: padded 2 second ++
      fractionText microsecond) =
      some ⟨hour, minute, second, microsecond, next != endMark⟩ := by
  simp only [readClock?, List.append_assoc, readNumber?_padded (by decide) hourFits,
    Option.bind_eq_bind, Option.bind_some, List.cons_append, List.headD_cons, beq_self_eq_true,
    afterNumber_colon next (padded_append_ne_nil (by decide) minuteFits _),
    readNumber?_padded (by decide) minuteFits,
    afterNumber_colon next (padded_append_ne_nil (by decide) secondFits _),
    readNumber?_padded (by decide) secondFits]
  by_cases whole : microsecond = 0
  · rw [whole]
    rfl
  · obtain ⟨c, digits, same, -⟩ := exists_padded_eq_cons (by decide) microsecondFits
    rw [fractionText, if_neg whole, afterNumber_point next (by rw [same]; exact List.cons_ne_nil _ _)]
    exact readFraction?_padded next hour minute second microsecondFits

theorem Clock.fits (clock : Clock) : clock.hour < 10 ^ 2 ∧ clock.minute < 10 ^ 2 ∧
    clock.second < 10 ^ 2 ∧ clock.microsecond < 10 ^ 6 := by
  have ⟨hour, minute, second, microsecond⟩ := clock.valid
  omega

theorem readClock?_isoText (next : Char) (clock : Clock) :
    readClock? next clock.isoText =
      some ⟨clock.hour, clock.minute, clock.second, clock.microsecond, next != endMark⟩ := by
  have ⟨hour, minute, second, microsecond⟩ := clock.fits
  exact readClock?_colons next hour minute second microsecond

/-- The second may be left out if it is zero. -/
theorem readClock?_short (next : Char) {hour minute second : Nat} (hourFits : hour < 10 ^ 2)
    (minuteFits : minute < 10 ^ 2) (secondFits : second < 10 ^ 2) :
    readClock? next (padded 2 hour ++ ':' :: padded 2 minute ++
      if second = 0 then [] else ':' :: padded 2 second) =
      some ⟨hour, minute, second, 0, next != endMark⟩ := by
  split
  next zero =>
    have lastPart := readNumber?_padded (by decide) minuteFits []
    have more := padded_append_ne_nil (by decide) minuteFits []
    rw [List.append_nil] at lastPart more
    simp only [readClock?, List.append_nil, readNumber?_padded (by decide) hourFits,
      Option.bind_eq_bind, Option.bind_some, List.headD_cons, beq_self_eq_true,
      afterNumber_colon next more, lastPart]
    rw [zero]
    rfl
  next =>
    have read := readClock?_colons next hourFits minuteFits secondFits
      (show 0 < 10 ^ 6 by decide)
    rw [fractionText, if_pos rfl, List.append_nil] at read
    exact read

/-! ## Offsets -/

/-- Hour, minute and second of a whole number of seconds give the offset back. -/
theorem toOffset?_parts {offset : Offset} (whole : 1000000 ∣ offset.microseconds) {seconds : Nat}
    (size : offset.microseconds.natAbs / 1000000 = seconds) (leftOver : Bool) :
    ClockReading.toOffset? ⟨seconds / 3600, seconds / 60 % 60, seconds % 60, 0, leftOver⟩
      (decide (offset.microseconds < 0)) = some offset := by
  obtain ⟨microseconds, bounded⟩ := offset
  simp only at whole size ⊢
  have total : seconds / 3600 * 3600 + seconds / 60 % 60 * 60 + seconds % 60 = seconds := by omega
  have sized : (if decide (microseconds < 0) = true then -((seconds * 1000000 + 0 : Nat) : Int)
      else (seconds * 1000000 + 0 : Nat)) = microseconds := by
    split
    next behind =>
      rw [decide_eq_true_eq] at behind
      omega
    next ahead =>
      rw [decide_eq_true_eq] at ahead
      omega
  simp only [ClockReading.toOffset?, total]
  split
  next nothing =>
    -- no seconds are universal time, as the whole offset is none
    have zero : microseconds = 0 := by omega
    subst zero
    rfl
  next =>
    rw [sized, Offset.ofMicroseconds?, dif_pos bounded]

/-- The text of an offset of whole seconds is a sign and a time that gives the offset back. -/
theorem Offset.exists_reading {offset : Offset} (whole : 1000000 ∣ offset.microseconds) :
    ∃ sign rest reading, offset.isoText = sign :: rest ∧ startsOffset sign = true ∧
      readClock? endMark rest = some reading ∧ reading.leftOver = false ∧
      reading.toOffset? (sign == '-') = some offset := by
  have bounded := offset.bounded
  simp only [dayMicroseconds] at bounded
  have fine : offset.microseconds.natAbs % 1000000 = 0 := by omega
  have hour : offset.microseconds.natAbs / 1000000 / 3600 < 10 ^ 2 := by omega
  have minute : offset.microseconds.natAbs / 1000000 / 60 % 60 < 10 ^ 2 := by omega
  have second : offset.microseconds.natAbs / 1000000 % 60 < 10 ^ 2 := by omega
  refine ⟨if offset.microseconds < 0 then '-' else '+', _, _, ?_, ?_,
    readClock?_short endMark hour minute second, rfl, ?_⟩
  · simp only [isoText, fine, fractionText, decide_true, Bool.and_true, decide_eq_true_eq, if_true,
      List.append_nil, List.cons_append]
  · split <;> rfl
  · have behind : ((if offset.microseconds < 0 then '-' else '+') == '-') =
        decide (offset.microseconds < 0) := by
      split
      next ahead => rw [decide_eq_true ahead]; rfl
      next ahead => rw [decide_eq_false ahead]; rfl
    rw [behind]
    exact toOffset?_parts whole rfl false

/-! ## Characters of a text -/

section Characters

variable {p : Char → Prop} (digit : ∀ c, isAsciiDigit c = true → p c)
include digit

theorem forall_mem_padded (width number : Nat) : ∀ c ∈ padded width number, p c :=
  fun c inside => digit c (isAsciiDigit_of_mem_padded inside)

theorem Date.forall_mem_isoText (hyphen : p '-') (date : Date) : ∀ c ∈ date.isoText, p c := by
  have number := forall_mem_padded digit
  simp only [isoText, List.forall_mem_append, List.forall_mem_cons]
  exact ⟨⟨number _ _, hyphen, number _ _⟩, hyphen, number _ _⟩

variable (colon : p ':') (point : p '.')
include colon point

omit colon in
theorem forall_mem_fractionText (microsecond : Nat) : ∀ c ∈ fractionText microsecond, p c := by
  unfold fractionText
  split
  next => exact List.forall_mem_nil p
  next => exact List.forall_mem_cons.mpr ⟨point, forall_mem_padded digit _ _⟩

theorem Clock.forall_mem_isoText (clock : Clock) : ∀ c ∈ clock.isoText, p c := by
  have number := forall_mem_padded digit
  simp only [isoText, List.forall_mem_append, List.forall_mem_cons]
  exact ⟨⟨⟨number _ _, colon, number _ _⟩, colon, number _ _⟩, forall_mem_fractionText digit point _⟩

theorem Offset.forall_mem_isoText (hyphen : p '-') (plus : p '+') (offset : Offset) :
    ∀ c ∈ offset.isoText, p c := by
  have number := forall_mem_padded digit
  have fine : ∀ (minutes : Bool) (second microsecond : Nat), ∀ c ∈ (if minutes then []
      else ':' :: padded 2 second ++ fractionText microsecond), p c := by
    intro minutes second microsecond
    cases minutes with
    | true => exact List.forall_mem_nil p
    | false =>
      exact List.forall_mem_append.mpr ⟨List.forall_mem_cons.mpr ⟨colon, number _ _⟩,
        forall_mem_fractionText digit point _⟩
  simp only [isoText, List.forall_mem_append, List.forall_mem_cons]
  refine ⟨⟨⟨?_, number _ _⟩, colon, number _ _⟩, fine _ _ _⟩
  split
  next => exact hyphen
  next => exact plus

end Characters

/-! ## Moments -/

private theorem startsOffset_of_isAsciiDigit {c : Char} (digit : isAsciiDigit c = true) :
    startsOffset c = false := by
  by_contra sign
  rw [Bool.not_eq_false, startsOffset, Bool.or_eq_true, beq_iff_eq, beq_iff_eq] at sign
  rcases sign with rfl | rfl
  · exact absurd digit (by decide)
  · exact absurd digit (by decide)

private theorem readTime?_isoText (clock : Clock) {offset : Option Offset}
    (whole : ∀ known ∈ offset, 1000000 ∣ known.microseconds) :
    readTime? (clock.isoText ++ offset.elim [] Offset.isoText) = some (clock, offset) := by
  have bare : ∀ c ∈ clock.isoText, (!startsOffset c) = true := by
    refine Clock.forall_mem_isoText (p := fun c => (!startsOffset c) = true) ?_ rfl rfl clock
    intro c digit
    rw [startsOffset_of_isAsciiDigit digit]
    rfl
  have time : ∀ leftOver, ClockReading.toClock?
      ⟨clock.hour, clock.minute, clock.second, clock.microsecond, leftOver⟩ = some clock :=
    fun _ => dif_pos clock.valid
  rw [readTime?, List.takeWhile_append_of_pos bare, List.dropWhile_append_of_pos bare]
  cases offset with
  | none =>
    simp only [Option.elim_none, List.takeWhile_nil, List.dropWhile_nil, List.append_nil,
      readClock?_isoText, Option.bind_eq_bind, Option.bind_some, time]
    rfl
  | some offset =>
    obtain ⟨sign, rest, reading, text, starts, read, ended, back⟩ := Offset.exists_reading (whole offset rfl)
    simp only [Option.elim_some, text, List.takeWhile_cons, List.dropWhile_cons, starts, Bool.not_true,
      Bool.false_eq_true, if_false, List.append_nil, readClock?_isoText, Option.bind_eq_bind,
      Option.bind_some, time, read, ended, back]

theorem Moment.toList_isoText (moment : Moment) : moment.isoText.toList =
    moment.date.isoText ++ 'T' :: (moment.clock.isoText ++ moment.offset.elim [] Offset.isoText) := by
  rw [isoText, isoTextWith, String.toList_ofList, List.append_assoc, List.cons_append]

/-- A moment whose offset, if known, is a whole number of seconds is read back from its text. -/
theorem Moment.ofIsoChars?_isoText {moment : Moment}
    (whole : ∀ offset ∈ moment.offset, 1000000 ∣ offset.microseconds) :
    Moment.ofIsoChars? moment.isoText.toList = some moment := by
  have size := moment.date.length_isoText
  have long : ¬moment.isoText.toList.length < 7 := by
    rw [toList_isoText, List.length_append, size]
    omega
  rw [ofIsoChars?, if_neg long, toList_isoText]
  simp only [dateLength_isoText, List.take_left' size, List.drop_left' size, readDate?_isoText,
    Option.bind_eq_bind, Option.bind_some, readTime?_isoText moment.clock whole]

theorem Moment.forall_mem_isoText {p : Char → Prop} (digit : ∀ c, isAsciiDigit c = true → p c)
    (colon : p ':') (point : p '.') (hyphen : p '-') (plus : p '+') (letter : p 'T') (moment : Moment) :
    ∀ c ∈ moment.isoText.toList, p c := by
  simp only [toList_isoText, List.forall_mem_append, List.forall_mem_cons]
  refine ⟨moment.date.forall_mem_isoText digit hyphen, letter,
    moment.clock.forall_mem_isoText digit colon point, ?_⟩
  cases moment.offset with
  | none => exact List.forall_mem_nil p
  | some offset => exact offset.forall_mem_isoText digit colon point hyphen plus

end QueryGate.Calendar
