import QueryGate.Value.Display
import QueryGate.Calendar.IsoReader
import QueryGate.Calendar.Timestamp
import QueryGate.Text.Blank
/-!
Reading a value as a moment. Moments without an offset are taken in universal time, numbers are
timestamps, and texts are ISO dates with blanks allowed around them. Nothing, the empty text and the
text `null` stand for no moment at all.
-/

namespace QueryGate

open QueryGate.Calendar QueryGate.Text

def nullTexts : List String := ["null", ""]

def Value.isNullMarker : Value → Bool
  | .null => true
  | .text chars => nullTexts.contains chars
  | _ => false

inductive DateError where
  | boolean (flag : Bool)
  | timestamp (number : Atom) (cause : TimestampError)
  | unreadable (chars : String)
  | unsupported (typeName : String)

/-- The message of a value that is no moment. One that shows a number with too many digits is about those
digits. -/
def DateError.message : DateError → String
  | .boolean flag => "Cannot convert boolean " ++ (if flag then "True" else "False") ++ " to a date"
  | .timestamp _ .notANumber => "Invalid value NaN (not a number)"
  | .timestamp number .outOfRange => match number.plain? with
    | some shown => "Timestamp out of range: " ++ shown
    | none => Number.limitMessage ""
  | .timestamp _ (.year year) => "year " ++ toString year ++ " is out of range"
  | .unreadable chars => "Cannot parse date string: " ++ quote chars
  | .unsupported typeName => "Cannot convert " ++ typeName ++ " to a date"

def spellZulu (chars : List Char) : List Char :=
  chars.flatMap fun c => if c == 'Z' then ['+', '0', '0', ':', '0', '0'] else [c]

def momentOfText? (chars : String) : Option Moment :=
  (Moment.ofIsoChars? (spellZulu (stripChars chars.toList))).map Moment.inUniversalTime

def timestampOutcome (number : Atom) :
    Except TimestampError Moment → Except DateError (Option Moment)
  | .ok moment => .ok (some moment)
  | .error cause => .error (.timestamp number cause)

def Value.toMoment? (value : Value) : Except DateError (Option Moment) :=
  if value.isNullMarker then .ok none else
  match value with
  | .atom (.date moment) => .ok (some moment.inUniversalTime)
  | .atom (.bool flag) => .error (.boolean flag)
  | .atom (.int seconds) => timestampOutcome (.int seconds) (momentOfInt seconds)
  | .atom (.float seconds) => timestampOutcome (.float seconds) (momentOfDouble seconds)
  | .atom (.text chars) =>
    match momentOfText? chars with
    | some moment => .ok (some moment)
    | none => .error (.unreadable chars)
  | value => .error (.unsupported value.typeName)

def Value.ofMoment? : Option Moment → Value
  | some moment => .date moment
  | none => .null

end QueryGate
