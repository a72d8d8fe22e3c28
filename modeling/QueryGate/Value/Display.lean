import QueryGate.Value.Basic
import QueryGate.Calendar.IsoPrinter
import QueryGate.Number.Integer
import QueryGate.Number.Shortest
import QueryGate.Text.Quoted
/-!
Values as messages show them. The literal of a value puts texts between quotation marks and spells its
type out where that matters; the plain form differs only for a text, which stands for itself, and for a
moment, which is written in ISO form with a space. A value that holds a whole number with too many digits
has neither form. Two vocabularies name the type of a value: one for all messages, and one that the grammar
of filters uses.
-/

namespace QueryGate

open QueryGate.Calendar QueryGate.Text

/-- The literal of a stretch of time that is not negative in its days' remainder: days, seconds and
microseconds, leaving out those that are zero. -/
def durationLiteral (microseconds : Int) : String :=
  let days := microseconds / dayMicroseconds
  let inDay := microseconds % dayMicroseconds
  let parts := [("days", days), ("seconds", inDay / 1000000), ("microseconds", inDay % 1000000)]
  let shown := parts.filter fun part => part.2 != 0
  "datetime.timedelta(" ++
    (if shown.isEmpty then "0"
     else ", ".intercalate (shown.map fun part => part.1 ++ "=" ++ toString part.2)) ++ ")"

def offsetLiteral (offset : Offset) : String :=
  if offset = Offset.utc then "datetime.timezone.utc"
  else "datetime.timezone(" ++ durationLiteral offset.microseconds ++ ")"

def momentLiteral (moment : Moment) : String :=
  let { date, clock, offset } := moment
  let fine :=
    if clock.microsecond != 0 then [clock.second, clock.microsecond]
    else if clock.second != 0 then [clock.second]
    else []
  let numbers := [date.year, date.month, date.day, clock.hour, clock.minute] ++ fine
  let zone := offset.elim [] fun offset => ["tzinfo=" ++ offsetLiteral offset]
  "datetime.datetime(" ++ ", ".intercalate (numbers.map toString ++ zone) ++ ")"

namespace Atom

def literal? : Atom → Option String
  | .null => some "None"
  | .bool flag => some (if flag then "True" else "False")
  | .int number => Number.write? number
  | .float number => some number.text
  | .text chars => some (quote chars)
  | .date moment => some (momentLiteral moment)
  | .bytes data => some (quoteBytes data)

def plain? : Atom → Option String
  | .text chars => some chars
  | .date moment => some (moment.isoTextWith ' ')
  | leaf => leaf.literal?

def chars : Atom → String
  | .text chars => chars
  | _ => ""

def typeName : Atom → String
  | .null => "NoneType"
  | .bool _ => "bool"
  | .int _ => "int"
  | .float _ => "float"
  | .text _ => "str"
  | .date _ => "datetime"
  | .bytes _ => "bytes"

def kindName : Atom → String
  | .null => "null"
  | .bool _ => "boolean"
  | .int _ => "number"
  | .float number => if number.isFinite then "number" else "non-finite number"
  | .text _ => "string"
  | .date _ => "date"
  | .bytes _ => "bytes"

end Atom

namespace Value

mutual

def literal? : Value → Option String
  | .atom leaf => leaf.literal?
  | .list items => do
    let parts ← literalItems? items
    some ("[" ++ ", ".intercalate parts ++ "]")
  | .map entries => do
    let parts ← literalEntries? entries
    some ("\x7b" ++ ", ".intercalate parts ++ "\x7d")

def literalItems? : List Value → Option (List String)
  | [] => some []
  | item :: items => do
    let first ← literal? item
    let others ← literalItems? items
    some (first :: others)

def literalEntries? : List (Atom × Value) → Option (List String)
  | [] => some []
  | (key, value) :: entries => do
    let key ← key.literal?
    let first ← literal? value
    let others ← literalEntries? entries
    some ((key ++ ": " ++ first) :: others)

end

def plain? : Value → Option String
  | .atom leaf => leaf.plain?
  | value => value.literal?

def typeName : Value → String
  | .atom leaf => leaf.typeName
  | .list _ => "list"
  | .map _ => "dict"

def kindName : Value → String
  | .atom leaf => leaf.kindName
  | .list _ => "array"
  | .map _ => "object"

end Value

end QueryGate
