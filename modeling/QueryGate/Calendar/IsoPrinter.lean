import QueryGate.Calendar.Moment
/-!
The ISO 8601 text of a moment: four digits of year, the time of day to the second, six digits of
fraction only if there is one, and the offset to the minute, or finer only if it is finer.
-/

namespace QueryGate.Calendar

def padded (width number : Nat) : List Char :=
  let digits := Nat.toDigits 10 number
  List.replicate (width - digits.length) '0' ++ digits

def fractionText (microsecond : Nat) : List Char :=
  if microsecond = 0 then [] else '.' :: padded 6 microsecond

def Date.isoText (date : Date) : List Char :=
  padded 4 date.year ++ '-' :: padded 2 date.month ++ '-' :: padded 2 date.day

def Clock.isoText (clock : Clock) : List Char :=
  padded 2 clock.hour ++ ':' :: padded 2 clock.minute ++ ':' :: padded 2 clock.second ++
    fractionText clock.microsecond

def Offset.isoText (offset : Offset) : List Char :=
  let size := offset.microseconds.natAbs
  let seconds := size / 1000000
  let second := seconds % 60
  let microsecond := size % 1000000
  (if offset.microseconds < 0 then '-' else '+') :: padded 2 (seconds / 3600) ++
    ':' :: padded 2 (seconds / 60 % 60) ++
    (if second = 0 && microsecond = 0 then []
     else ':' :: padded 2 second ++ fractionText microsecond)

def Moment.isoTextWith (separator : Char) (moment : Moment) : String :=
  String.ofList (moment.date.isoText ++ separator :: moment.clock.isoText ++
    moment.offset.elim [] Offset.isoText)

def Moment.isoText (moment : Moment) : String := moment.isoTextWith 'T'

end QueryGate.Calendar
