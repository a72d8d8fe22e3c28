import QueryGate.Calendar.Moment
import QueryGate.Number.Rounding
/-!
Timestamps: moments given as seconds since the first of January 1970 in universal time. Whole and
fractional seconds are read to the microsecond, a half going to the even one. A timestamp outside the
supported years is refused with the year it falls in, as long as that year fits the counter for years.
-/

namespace QueryGate.Calendar

inductive TimestampError where
  | notANumber
  | outOfRange
  | year (year : Int)
deriving DecidableEq, Repr

def epochDay : Int := 719162

/-- The least and the greatest second count of the system clock. -/
def clockRange : Int × Int := (-0x8000000000000000, 0x7fffffffffffffff)

/-- Years are counted from 1900 in a signed word of 32 bits. -/
def yearBase : Int := 1900

def yearRange : Int × Int := (yearBase - 0x80000000, yearBase + 0x7fffffff)

/-- A year as it reads in a signed word of 32 bits. -/
def wrapYear (year : Int) : Int := year.bmod 0x100000000

/-- The moment a number of seconds and microseconds after the epoch. The year is named as it reads in a
signed word of 32 bits. -/
def momentOfSeconds (seconds : Int) (microsecond : Nat) : Except TimestampError Moment :=
  if seconds < clockRange.1 || clockRange.2 < seconds then .error .outOfRange else
  let dayNumber := epochDay + seconds / 86400
  let inDay := (seconds % 86400).toNat
  let (year, _) := civilYear dayNumber
  if year < yearRange.1 || yearRange.2 < year then .error .outOfRange
  else match Date.ofDayNumber? dayNumber,
      Clock.ofParts? (inDay / 3600) (inDay / 60 % 60) (inDay % 60) microsecond with
    | some date, some clock => .ok ⟨date, clock, some Offset.utc⟩
    | _, _ => .error (.year (wrapYear year))

def momentOfInt (seconds : Int) : Except TimestampError Moment := momentOfSeconds seconds 0

/-- Splits a finite double into its whole part toward zero and the magnitude of the rest, which is a
double itself. -/
def splitFraction (d : Double) : Int × Double :=
  let (numerator, denominator) := d.ratio
  let whole := numerator.tdiv denominator
  (whole, Double.ofRatio d.isNegative (numerator - whole * denominator).natAbs denominator)

/-- The fraction of a second in microseconds: the product is rounded to a double first, and then to a
whole number, a half going to the even one. -/
def fractionMicroseconds (fraction : Double) : Int :=
  let (numerator, denominator) := fraction.magnitudeRatio
  let product := Double.ofRatio false (numerator * 1000000) denominator
  let (numerator, denominator) := product.magnitudeRatio
  let rounded : Int := roundHalfEven numerator denominator
  if fraction.isNegative then -rounded else rounded

def momentOfDouble (d : Double) : Except TimestampError Moment :=
  if d.isNaN then .error .notANumber
  else if d.isInfinite then .error .outOfRange
  else
    let (whole, fraction) := splitFraction d
    let microseconds := fractionMicroseconds fraction
    let carry : Int := if 1000000 ≤ microseconds then 1 else if microseconds < 0 then -1 else 0
    momentOfSeconds (whole + carry) (microseconds - carry * 1000000).toNat

end QueryGate.Calendar
