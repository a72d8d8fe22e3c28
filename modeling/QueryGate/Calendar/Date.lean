/-!
Dates of the Gregorian calendar, extended to all years from 1 to 9999. Days are numbered from the first
of January of year 1, which is a Monday and has number 0. The civil year of a day number is found for
every integer, so that a day outside the supported years can still be named.
-/

namespace QueryGate.Calendar

def isLeapYear (year : Nat) : Bool := year % 4 == 0 && (year % 100 != 0 || year % 400 == 0)

def monthLength (year month : Nat) : Nat :=
  match month with
  | 2 => if isLeapYear year then 29 else 28
  | 4 | 6 | 9 | 11 => 30
  | _ => 31

def lastYear : Nat := 9999

def IsDate (year month day : Nat) : Prop :=
  1 ≤ year ∧ year ≤ lastYear ∧ 1 ≤ month ∧ month ≤ 12 ∧ 1 ≤ day ∧ day ≤ monthLength year month

instance (year month day : Nat) : Decidable (IsDate year month day) := by
  unfold IsDate; infer_instance

structure Date where
  year : Nat
  month : Nat
  day : Nat
  valid : IsDate year month day
deriving DecidableEq

/-- The first day of year 1. -/
instance : Inhabited Date := ⟨⟨1, 1, 1, by decide⟩⟩

def daysBeforeYear (year : Nat) : Nat :=
  let past := year - 1
  365 * past + past / 4 - past / 100 + past / 400

def daysBeforeMonth (year : Nat) : Nat → Nat
  | 0 | 1 => 0
  | month + 2 => daysBeforeMonth year (month + 1) + monthLength year (month + 1)

namespace Date

def ofParts? (year month day : Nat) : Option Date :=
  if valid : IsDate year month day then some ⟨year, month, day, valid⟩ else none

/-- The number of a date, counted in days from the first day of year 1. -/
def dayNumber (date : Date) : Nat :=
  daysBeforeYear date.year + daysBeforeMonth date.year date.month + (date.day - 1)

end Date

def weekday (dayNumber : Nat) : Nat := dayNumber % 7

def daysPerEra : Nat := 146097

/-- The civil year of a day number and the days of that year before it. Inside an era of four centuries
the last day of a century, or of four years, still belongs to it, hence the two minima. -/
def civilYear (dayNumber : Int) : Int × Nat :=
  let era := dayNumber / daysPerEra
  let inEra := (dayNumber % daysPerEra).toNat
  let century := min (inEra / 36524) 3
  let inCentury := inEra - century * 36524
  let quad := inCentury / 1461
  let inQuad := inCentury - quad * 1461
  let single := min (inQuad / 365) 3
  (era * 400 + (100 * century + 4 * quad + single + 1 : Nat), inQuad - single * 365)

/-- The month and the day of the month that a day of the year falls on; `month` is the first of the
months whose lengths are given. -/
def splitMonths (month days : Nat) : List Nat → Nat × Nat
  | [] => (month, days + 1)
  | length :: lengths =>
    if days < length then (month, days + 1) else splitMonths (month + 1) (days - length) lengths

def monthLengths (year : Nat) : List Nat := (List.range 12).map fun index => monthLength year (index + 1)

def Date.ofDayNumber? (dayNumber : Int) : Option Date :=
  let (year, inYear) := civilYear dayNumber
  let (month, day) := splitMonths 1 inYear (monthLengths year.toNat)
  Date.ofParts? year.toNat month day

end QueryGate.Calendar
