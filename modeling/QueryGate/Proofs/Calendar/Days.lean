import Mathlib.Order.Monotone.Basic
import QueryGate.Calendar.Date
/-!
The days of the calendar. An era of four centuries repeats itself, so a year is counted through its era:
so many centuries, spans of four years and single years; the only leap years are the last ones of a span,
but for the last span of a century that does not end the era. Numbering a date and finding the date of a
number undo each other on all of the supported years, and the number after that of a date is the next
date's.
-/

namespace QueryGate.Calendar

def yearLength (year : Nat) : Nat := if isLeapYear year then 366 else 365

private theorem isLeapYear_iff {year : Nat} :
    isLeapYear year = true ↔ year % 4 = 0 ∧ (year % 100 ≠ 0 ∨ year % 400 = 0) := by
  simp [isLeapYear]

/-! ## Years -/

section Digits

variable (era : Nat) {century quad single : Nat}
  (bounded : century ≤ 3 ∧ quad ≤ 24 ∧ single ≤ 3)
include bounded

theorem daysBeforeYear_digits :
    daysBeforeYear (400 * era + 100 * century + 4 * quad + single + 1) =
      146097 * era + 36524 * century + 1461 * quad + 365 * single := by
  simp only [daysBeforeYear]
  omega

theorem yearLength_digits :
    yearLength (400 * era + 100 * century + 4 * quad + single + 1) =
      if single = 3 ∧ (quad < 24 ∨ century = 3) then 366 else 365 := by
  have leap : isLeapYear (400 * era + 100 * century + 4 * quad + single + 1) = true ↔
      single = 3 ∧ (quad < 24 ∨ century = 3) := by
    rw [isLeapYear_iff]
    omega
  simp only [yearLength, leap]

/-- The walk to the civil year finds every year and every day in it: at each division the rest is too
small to reach the next unit, but for the last day of a century or of four years, which the minima
keep. -/
theorem civilYear_digits {days : Nat}
    (inYear : days < if single = 3 ∧ (quad < 24 ∨ century = 3) then 366 else 365) :
    civilYear (146097 * era + 36524 * century + 1461 * quad + 365 * single + days : Nat) =
      (((400 * era + 100 * century + 4 * quad + single + 1 : Nat) : Int), days) := by
  have short : days < 365 ∨ days = 365 ∧ single = 3 ∧ (quad < 24 ∨ century = 3) := by
    split at inYear <;> omega
  have eras : ((146097 * era + 36524 * century + 1461 * quad + 365 * single + days : Nat) : Int) /
      (146097 : Nat) = era := by omega
  have inEra : (((146097 * era + 36524 * century + 1461 * quad + 365 * single + days : Nat) : Int) %
      (146097 : Nat)).toNat = 36524 * century + (1461 * quad + (365 * single + days)) := by omega
  have centuries : min ((36524 * century + (1461 * quad + (365 * single + days))) / 36524) 3 =
      century := by omega
  have inCentury : 36524 * century + (1461 * quad + (365 * single + days)) - century * 36524 =
      1461 * quad + (365 * single + days) := by omega
  have quads : (1461 * quad + (365 * single + days)) / 1461 = quad := by omega
  have inQuad : 1461 * quad + (365 * single + days) - quad * 1461 = 365 * single + days := by omega
  have singles : min ((365 * single + days) / 365) 3 = single := by omega
  simp only [civilYear, daysPerEra, eras, inEra, centuries, inCentury, quads, inQuad, singles]
  refine Prod.ext ?_ ?_
  · show (era : Int) * 400 + (100 * century + 4 * quad + single + 1 : Nat) = _
    omega
  · show 365 * single + days - single * 365 = days
    omega

end Digits

theorem exists_digits (past : Nat) : ∃ era century quad single : Nat,
    past = 400 * era + 100 * century + 4 * quad + single ∧
      century ≤ 3 ∧ quad ≤ 24 ∧ single ≤ 3 :=
  ⟨past / 400, past % 400 / 100, past % 100 / 4, past % 4, by omega⟩

theorem daysBeforeYear_succ {year : Nat} (counted : 1 ≤ year) :
    daysBeforeYear (year + 1) = daysBeforeYear year + yearLength year := by
  obtain ⟨past, rfl⟩ := Nat.exists_eq_add_of_le' counted
  obtain ⟨era, century, quad, single, rfl, bounded⟩ := exists_digits past
  rw [daysBeforeYear_digits era bounded, yearLength_digits era bounded]
  simp only [daysBeforeYear]
  split <;> omega

theorem daysBeforeYear_mono : Monotone daysBeforeYear := by
  apply monotone_nat_of_le_succ
  intro year
  cases year with
  | zero => exact Nat.le_refl 0
  | succ past =>
    rw [daysBeforeYear_succ (Nat.le_add_left 1 past)]
    exact Nat.le_add_right _ _

private theorem civilYear_eq {year days : Nat} (counted : 1 ≤ year) (inYear : days < yearLength year) :
    civilYear (daysBeforeYear year + days : Nat) = ((year : Int), days) := by
  obtain ⟨past, rfl⟩ := Nat.exists_eq_add_of_le' counted
  obtain ⟨era, century, quad, single, rfl, bounded⟩ := exists_digits past
  rw [yearLength_digits era bounded] at inYear
  rw [daysBeforeYear_digits era bounded, civilYear_digits era bounded inYear]

private theorem civilYear_of_neg {dayNumber : Int} (early : dayNumber < 0) : (civilYear dayNumber).1 ≤ 0 := by
  simp only [civilYear, daysPerEra]
  omega

def dayCount : Nat := daysBeforeYear (lastYear + 1)

theorem dayCount_eq : dayCount = 3652059 := rfl

private theorem lastYear_lt_civilYear {dayNumber : Int} (late : dayCount ≤ dayNumber) :
    lastYear < (civilYear dayNumber).1 := by
  rw [dayCount_eq] at late
  simp only [civilYear, daysPerEra, lastYear]
  have eras : 25 ≤ dayNumber / (146097 : Nat) ∨ dayNumber / (146097 : Nat) = 24 ∧
      145731 ≤ (dayNumber % (146097 : Nat)).toNat ∧ (dayNumber % (146097 : Nat)).toNat < 146097 := by
    omega
  rcases eras with beyond | ⟨era, low, high⟩
  · omega
  · -- the last day of the last year is the last but one year of its era
    generalize (dayNumber % (146097 : Nat)).toNat = inEra at low high ⊢
    have century : min (inEra / 36524) 3 = 3 := by omega
    have quad : (inEra - 3 * 36524) / 1461 = 24 := by omega
    have single : min ((inEra - 3 * 36524 - 24 * 1461) / 365) 3 = 3 := by omega
    rw [era, century, quad, single]
    omega

/-! ## Months -/

theorem monthLength_between (year month : Nat) :
    28 ≤ monthLength year month ∧ monthLength year month ≤ 31 := by
  unfold monthLength
  split
  next => split <;> decide
  all_goals decide

theorem daysBeforeMonth_succ (year : Nat) {month : Nat} (counted : 1 ≤ month) :
    daysBeforeMonth year (month + 1) = daysBeforeMonth year month + monthLength year month := by
  cases month with
  | zero => omega
  | succ month => rfl

theorem daysBeforeMonth_mono (year : Nat) : Monotone (daysBeforeMonth year) := by
  apply monotone_nat_of_le_succ
  intro month
  cases month with
  | zero => exact Nat.le_refl 0
  | succ month => exact Nat.le_add_right _ _

/-- The twelve months fill the year. -/
theorem daysBeforeMonth_thirteen (year : Nat) : daysBeforeMonth year 13 = yearLength year := by
  simp only [daysBeforeMonth, monthLength, yearLength]
  split <;> rfl

/-- The walk over the months stops in the month that a day belongs to. -/
theorem splitMonths_eq {year month day : Nat} (first : 1 ≤ day) (last : day ≤ monthLength year month)
    {count start days : Nat} (counted : 1 ≤ start) (due : start ≤ month) (known : month < start + count)
    (same : daysBeforeMonth year start + days = daysBeforeMonth year month + (day - 1)) :
    splitMonths start days ((List.range count).map fun index => monthLength year (start + index)) =
      (month, day) := by
  induction count generalizing start days with
  | zero => omega
  | succ count ih =>
    have ended := daysBeforeMonth_succ year counted
    rw [List.range_succ_eq_map, List.map_cons, List.map_map, splitMonths, Nat.add_zero]
    rcases Nat.eq_or_lt_of_le due with rfl | later
    · rw [if_pos (by omega), Prod.mk.injEq]
      omega
    · have passed := daysBeforeMonth_mono year (show start + 1 ≤ month from later)
      rw [if_neg (by omega), ← ih (Nat.le_add_left 1 start) later (by omega)
        (show daysBeforeMonth year (start + 1) + (days - monthLength year start) = _ by omega)]
      congr 2
      funext index
      exact congrArg (monthLength year) (by omega)

/-! ## Dates -/

namespace Date

theorem ofParts?_parts (date : Date) : ofParts? date.year date.month date.day = some date :=
  dif_pos date.valid

theorem ofParts?_eq_some_iff {year month day : Nat} {date : Date} :
    ofParts? year month day = some date ↔ date.year = year ∧ date.month = month ∧ date.day = day := by
  constructor
  · intro made
    unfold ofParts? at made
    split at made
    next => cases made; exact ⟨rfl, rfl, rfl⟩
    next => cases made
  · rintro ⟨rfl, rfl, rfl⟩
    exact ofParts?_parts date

def dayOfYear (date : Date) : Nat := daysBeforeMonth date.year date.month + (date.day - 1)

theorem dayOfYear_lt (date : Date) : date.dayOfYear < yearLength date.year := by
  obtain ⟨year, month, day, _, _, first, last, dayFirst, dayLast⟩ := date
  have ended := daysBeforeMonth_succ year first
  have within := daysBeforeMonth_mono year (show month + 1 ≤ 13 by omega)
  rw [daysBeforeMonth_thirteen] at within
  simp only [dayOfYear]
  omega

theorem dayNumber_eq (date : Date) : date.dayNumber = daysBeforeYear date.year + date.dayOfYear :=
  Nat.add_assoc _ _ _

theorem civilYear_dayNumber (date : Date) :
    civilYear date.dayNumber = ((date.year : Int), date.dayOfYear) := by
  rw [dayNumber_eq, civilYear_eq date.valid.1 date.dayOfYear_lt]

theorem ofDayNumber?_dayNumber (date : Date) : ofDayNumber? date.dayNumber = some date := by
  have ⟨_, _, firstMonth, lastMonth, firstDay, lastDay⟩ := date.valid
  have month := splitMonths_eq firstDay lastDay (Nat.le_refl 1) firstMonth
    (show date.month < 1 + 12 by omega) (Nat.zero_add date.dayOfYear)
  simp only [Nat.add_comm 1] at month
  simp only [ofDayNumber?, civilYear_dayNumber, Int.toNat_natCast, monthLengths, month]
  exact ofParts?_parts date

theorem dayNumber_lt (date : Date) : date.dayNumber < dayCount := by
  have inYear := date.dayOfYear_lt
  have ended := daysBeforeYear_succ date.valid.1
  have within : daysBeforeYear (date.year + 1) ≤ dayCount :=
    daysBeforeYear_mono (Nat.succ_le_succ date.valid.2.1)
  rw [dayNumber_eq]
  omega

def next? (date : Date) : Option Date :=
  if date.day < monthLength date.year date.month then ofParts? date.year date.month (date.day + 1)
  else if date.month < 12 then ofParts? date.year (date.month + 1) 1
  else ofParts? (date.year + 1) 1 1

/-- The last day of December is the last day of its year. -/
theorem dayNumber_of_yearEnd {date : Date} (monthOver : ¬date.day < monthLength date.year date.month)
    (yearOver : ¬date.month < 12) : date.dayNumber + 1 = daysBeforeYear (date.year + 1) := by
  have ⟨counted, _, firstMonth, lastMonth, firstDay, lastDay⟩ := date.valid
  have december : date.month = 12 := by omega
  have monthEnd := daysBeforeMonth_succ date.year firstMonth
  rw [december] at monthEnd monthOver lastDay
  rw [daysBeforeYear_succ counted, ← daysBeforeMonth_thirteen, monthEnd, dayNumber, december]
  omega

theorem dayNumber_of_next? {date later : Date} (next : date.next? = some later) :
    later.dayNumber = date.dayNumber + 1 := by
  have ⟨_, _, firstMonth, _, firstDay, lastDay⟩ := date.valid
  unfold next? at next
  split at next
  next =>
    obtain ⟨year, month, day⟩ := ofParts?_eq_some_iff.mp next
    simp only [dayNumber, year, month, day]
    omega
  next monthOver =>
    split at next
    next =>
      obtain ⟨year, month, day⟩ := ofParts?_eq_some_iff.mp next
      simp only [dayNumber, year, month, day, daysBeforeMonth_succ date.year firstMonth]
      omega
    next yearOver =>
      obtain ⟨year, month, day⟩ := ofParts?_eq_some_iff.mp next
      rw [dayNumber_of_yearEnd monthOver yearOver, dayNumber, year, month, day]
      rfl

/-- Only the last date has no next one. -/
theorem exists_next? {date : Date} (more : date.dayNumber + 1 < dayCount) :
    ∃ later, date.next? = some later := by
  have ⟨counted, supported, firstMonth, lastMonth, firstDay, lastDay⟩ := date.valid
  unfold next?
  split
  next => exact ⟨_, dif_pos (by unfold IsDate; omega)⟩
  next monthOver =>
    split
    next =>
      have short := monthLength_between date.year (date.month + 1)
      exact ⟨_, dif_pos (by unfold IsDate; omega)⟩
    next yearOver =>
      rw [dayNumber_of_yearEnd monthOver yearOver] at more
      have early : date.year + 1 < lastYear + 1 := by
        apply Nat.lt_of_not_le
        intro late
        exact Nat.not_le_of_lt more (daysBeforeYear_mono late)
      have short := monthLength_between (date.year + 1) 1
      exact ⟨_, dif_pos (by unfold IsDate; omega)⟩

/-- Every number of a day in the supported years is the number of a date. -/
theorem exists_dayNumber {number : Nat} (within : number < dayCount) :
    ∃ date : Date, date.dayNumber = number := by
  induction number with
  | zero => exact ⟨⟨1, 1, 1, by decide⟩, rfl⟩
  | succ number ih =>
    obtain ⟨date, rfl⟩ := ih (Nat.lt_of_succ_lt within)
    obtain ⟨later, next⟩ := exists_next? within
    exact ⟨later, dayNumber_of_next? next⟩

private theorem year_of_ofDayNumber? {dayNumber : Int} {date : Date}
    (found : ofDayNumber? dayNumber = some date) : date.year = (civilYear dayNumber).1.toNat :=
  (ofParts?_eq_some_iff.mp found).1

theorem ofDayNumber?_eq_some_iff {dayNumber : Int} {date : Date} :
    ofDayNumber? dayNumber = some date ↔ (date.dayNumber : Int) = dayNumber := by
  constructor
  · intro found
    by_cases within : 0 ≤ dayNumber ∧ dayNumber < dayCount
    · obtain ⟨number, rfl⟩ := Int.eq_ofNat_of_zero_le within.1
      obtain ⟨other, rfl⟩ := exists_dayNumber (Int.ofNat_lt.mp within.2)
      rw [ofDayNumber?_dayNumber] at found
      rw [Option.some.inj found]
    · -- the year of a number outside lies outside too
      have ⟨counted, supported, _⟩ := date.valid
      rw [year_of_ofDayNumber? found] at counted supported
      rcases Int.lt_or_le dayNumber 0 with early | late
      · have before := civilYear_of_neg early
        omega
      · have after := lastYear_lt_civilYear (show (dayCount : Int) ≤ dayNumber by omega)
        omega
  · rintro rfl
    exact ofDayNumber?_dayNumber date

end Date

end QueryGate.Calendar
