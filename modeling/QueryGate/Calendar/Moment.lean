import QueryGate.Calendar.Date
/-!
Moments: a date, a time of day to the microsecond, and the distance from universal time if it is known.
Moments with a known distance are points on the one line of time; the others are only read off a clock
on the wall.
-/

namespace QueryGate.Calendar

def IsClock (hour minute second microsecond : Nat) : Prop :=
  hour < 24 ∧ minute < 60 ∧ second < 60 ∧ microsecond < 1000000

instance (hour minute second microsecond : Nat) :
    Decidable (IsClock hour minute second microsecond) := by
  unfold IsClock; infer_instance

structure Clock where
  hour : Nat
  minute : Nat
  second : Nat
  microsecond : Nat
  valid : IsClock hour minute second microsecond
deriving DecidableEq

def Clock.midnight : Clock := ⟨0, 0, 0, 0, by decide⟩

def Clock.ofParts? (hour minute second microsecond : Nat) : Option Clock :=
  if valid : IsClock hour minute second microsecond then
    some ⟨hour, minute, second, microsecond, valid⟩
  else none

def Clock.seconds (clock : Clock) : Nat := clock.hour * 3600 + clock.minute * 60 + clock.second

def dayMicroseconds : Int := 86400000000

/-- How far a clock is ahead of universal time, in microseconds; less than a day either way. -/
structure Offset where
  microseconds : Int
  bounded : -dayMicroseconds < microseconds ∧ microseconds < dayMicroseconds
deriving DecidableEq

def Offset.utc : Offset := ⟨0, by decide⟩

def Offset.ofMicroseconds? (microseconds : Int) : Option Offset :=
  if bounded : -dayMicroseconds < microseconds ∧ microseconds < dayMicroseconds then
    some ⟨microseconds, bounded⟩
  else none

/-- A date and a time of day, with the offset of the clock it was read from if that is known. -/
structure Moment where
  date : Date
  clock : Clock
  offset : Option Offset
deriving DecidableEq

namespace Moment

def isAware (moment : Moment) : Bool := moment.offset.isSome

/-- A moment without an offset is taken to be in universal time. -/
def inUniversalTime (moment : Moment) : Moment :=
  { moment with offset := some (moment.offset.getD Offset.utc) }

def wallMicroseconds (moment : Moment) : Int :=
  ((moment.date.dayNumber * 86400 + moment.clock.seconds) * 1000000 + moment.clock.microsecond : Nat)

def instant (moment : Moment) : Int :=
  moment.wallMicroseconds - (moment.offset.elim 0 Offset.microseconds)

/-- Equality of moments as keys: two points on the line of time agree if they are the same point, two
wall readings if they show the same, and one of each never. -/
def sameInstant (first second : Moment) : Bool :=
  first.isAware == second.isAware && first.instant == second.instant

end Moment

end QueryGate.Calendar
