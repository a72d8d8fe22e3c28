import QueryGate.Calendar.Moment
/-!
Reading ISO 8601 texts. A date is given by month and day or by week and day of the week, with hyphens
throughout or without any; one character of any kind separates it from the time of day, which has
colons throughout or none; the time may carry a fraction and an offset. The reader follows one fixed
walk over the text, which settles what the ambiguous forms mean: a week date followed by digits, digits
after six places of a fraction, or a byte before the offset.

Where a walk looks past the last character it meets the null character, so a null character inside a
text reads like its end.
-/

namespace QueryGate.Calendar

def endMark : Char := Char.ofNat 0

def charAt (chars : List Char) (place : Nat) : Char := chars[place]?.getD endMark

def isAsciiDigit (c : Char) : Bool := '0' ≤ c && c ≤ '9'

def readNumber? (count : Nat) (chars : List Char) : Option (Nat × List Char) :=
  let digits := chars.take count
  if digits.length = count && digits.all isAsciiDigit then
    some (digits.foldl (fun number c => number * 10 + (c.toNat - 48)) 0, chars.drop count)
  else none

def countDigits (chars : List Char) : Nat := (chars.takeWhile isAsciiDigit).length

/-- How many characters of a text are its date. Four digits of year come first in every form; a `W`
behind them, or behind a hyphen, starts a week. In `YYYY-Www-` the second hyphen separates the time if
two digits follow, and a run of digits behind `YYYYWww` holds a day of the week if their count is odd. -/
def dateLength (chars : List Char) : Nat :=
  if chars.length = 7 then 7
  else if charAt chars 4 == '-' then
    if charAt chars 5 == 'W' then
      if charAt chars 8 == '-' then
        if 10 < chars.length && isAsciiDigit (charAt chars 10) then 8 else 10
      else 8
    else 10
  else if charAt chars 4 == 'W' then
    let digits := countDigits (chars.drop 7)
    if digits < 2 then 7 + digits
    else if digits % 2 = 1 then 7
    else 8
  else 8

def newYearWeekday (year : Nat) : Nat := weekday (daysBeforeYear year)

/-- Years with 53 weeks: those that start on a Thursday, and leap years that start on a Wednesday. -/
def hasLongYear (year : Nat) : Bool :=
  newYearWeekday year == 3 || (newYearWeekday year == 2 && isLeapYear year)

/-- The day number of the Monday of a year's first week, the week that holds its first Thursday. -/
def firstMonday (year : Nat) : Int :=
  let newYear := newYearWeekday year
  daysBeforeYear year - newYear + if newYear ≤ 3 then 0 else 7

def ofWeek? (year week day : Nat) : Option Date :=
  if 1 ≤ year && year ≤ lastYear && 1 ≤ week && (week ≤ 52 || (week == 53 && hasLongYear year))
      && 1 ≤ day && day ≤ 7 then
    Date.ofDayNumber? (firstMonday year + ((week - 1) * 7 + (day - 1) : Nat))
  else none

def passHyphen? (due : Bool) (chars : List Char) : Option (List Char) :=
  if due then match chars with
    | '-' :: rest => some rest
    | _ => none
  else some chars

/-- Reads a week and, if characters are left, the day of that week; Monday is the default. -/
def readWeek? (year : Nat) (hyphens : Bool) (chars : List Char) : Option Date := do
  let (week, rest) ← readNumber? 2 chars
  if rest.isEmpty then ofWeek? year week 1
  else
    let rest ← passHyphen? hyphens rest
    let (day, _) ← readNumber? 1 rest
    ofWeek? year week day

def readDate? (chars : List Char) : Option Date := do
  let (year, rest) ← readNumber? 4 chars
  let hyphens := rest.head? == some '-'
  let rest := if hyphens then rest.drop 1 else rest
  match rest with
  | 'W' :: rest => readWeek? year hyphens rest
  | _ =>
    let (month, rest) ← readNumber? 2 rest
    let rest ← passHyphen? hyphens rest
    let (day, _) ← readNumber? 2 rest
    Date.ofParts? year month day

/-- Hour, minute, second and microsecond as read, not yet checked, and whether something was left
over behind them. -/
structure ClockReading where
  hour : Nat
  minute : Nat
  second : Nat
  microsecond : Nat
  leftOver : Bool

inductive AfterNumber where
  | finished (leftOver : Bool)
  | number (rest : List Char)
  | fraction (rest : List Char)
  | malformed

def fitsOneByte : List Char → Bool
  | [] => true
  | [c] => c.utf8Size == 1
  | _ => false

/-- Looks behind a number of a time. `next` is the character behind the whole part; a single byte that
is left, whatever it is, ends the part and counts as left over. -/
def afterNumber (colons : Bool) (next : Char) (rest : List Char) : AfterNumber :=
  let c := rest.headD next
  if fitsOneByte rest then .finished (c != endMark)
  else if colons && c == ':' then .number (rest.drop 1)
  else if c == '.' || c == ',' then .fraction (rest.drop 1)
  else if !colons then .number rest
  else .malformed

/-- Reads the fraction of a second: six digits count, further ones are passed over. -/
def readFraction? (next : Char) (hour minute second : Nat) (part : List Char) :
    Option ClockReading := do
  let places := min part.length 6
  let (digits, rest) ← readNumber? places part
  let rest := rest.dropWhile isAsciiDigit
  some ⟨hour, minute, second, digits * Nat.pow 10 (6 - places), rest.headD next != endMark⟩

/-- Reads an hour with optional minute, second and fraction. A fraction may follow any of the three
numbers and always counts as a fraction of a second. -/
def readClock? (next : Char) (part : List Char) : Option ClockReading := do
  let (hour, rest) ← readNumber? 2 part
  let colons := rest.headD next == ':'
  match afterNumber colons next rest with
  | .malformed => none
  | .finished leftOver => some ⟨hour, 0, 0, 0, leftOver⟩
  | .fraction rest => readFraction? next hour 0 0 rest
  | .number rest =>
    let (minute, rest) ← readNumber? 2 rest
    match afterNumber colons next rest with
    | .malformed => none
    | .finished leftOver => some ⟨hour, minute, 0, 0, leftOver⟩
    | .fraction rest => readFraction? next hour minute 0 rest
    | .number rest =>
      let (second, rest) ← readNumber? 2 rest
      match afterNumber colons next rest with
      | .malformed => none
      | .finished leftOver => some ⟨hour, minute, second, 0, leftOver⟩
      | .fraction rest => readFraction? next hour minute second rest
      | .number rest => readFraction? next hour minute second rest

/-- The offset of a reading. One that comes to no whole second is universal time. -/
def ClockReading.toOffset? (reading : ClockReading) (behind : Bool) : Option Offset :=
  let seconds := reading.hour * 3600 + reading.minute * 60 + reading.second
  if seconds = 0 then some Offset.utc
  else
    let size : Int := (seconds * 1000000 + reading.microsecond : Nat)
    Offset.ofMicroseconds? (if behind then -size else size)

def ClockReading.toClock? (reading : ClockReading) : Option Clock :=
  Clock.ofParts? reading.hour reading.minute reading.second reading.microsecond

def startsOffset (c : Char) : Bool := c == '+' || c == '-'

/-- Reads a time of day with an optional offset. Something left over is refused at the end of the text,
but not before the sign of an offset. -/
def readTime? (chars : List Char) : Option (Clock × Option Offset) := do
  let part := chars.takeWhile fun c => !startsOffset c
  match chars.dropWhile fun c => !startsOffset c with
  | [] =>
    let reading ← readClock? endMark part
    if reading.leftOver then none
    else
      let clock ← reading.toClock?
      some (clock, none)
  | sign :: rest =>
    let reading ← readClock? sign part
    let clock ← reading.toClock?
    let distance ← readClock? endMark rest
    if distance.leftOver then none
    else
      let offset ← distance.toOffset? (sign == '-')
      some (clock, some offset)

def Moment.ofIsoChars? (chars : List Char) : Option Moment := do
  if chars.length < 7 then none
  else
    let length := dateLength chars
    let date ← readDate? (chars.take length)
    match chars.drop length with
    | [] => some ⟨date, Clock.midnight, none⟩
    | _ :: time =>
      let (clock, offset) ← readTime? time
      some ⟨date, clock, offset⟩

def Moment.ofIsoText? (text : String) : Option Moment := Moment.ofIsoChars? text.toList

end QueryGate.Calendar
