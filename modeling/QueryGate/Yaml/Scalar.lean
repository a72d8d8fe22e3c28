import QueryGate.Value.Basic
import QueryGate.Number.Rounding
import QueryGate.Number.Integer
import QueryGate.Yaml.Fault
/-!
What a plain YAML scalar means. The words for nothing and for truth values, whole numbers in base ten,
two, eight, sixteen or sixty, and decimal numbers with a point stand for those values; every other plain
scalar is a text. Underscores between digits do not count, and a whole number in base ten may have a
limited number of digits.
-/

namespace QueryGate.Yaml

def nullWords : List String := ["", "~", "null", "Null", "NULL"]

def trueWords : List String :=
  ["yes", "Yes", "YES", "true", "True", "TRUE", "on", "On", "ON"]

def falseWords : List String :=
  ["no", "No", "NO", "false", "False", "FALSE", "off", "Off", "OFF"]

def mergeWord : String := "<<"

def defaultWord : String := "="

/-- Scalars that stand for nothing but where they are keys. -/
def keyWords : List String := [mergeWord, defaultWord]

def isDecimal (c : Char) : Bool := '0' ≤ c && c ≤ '9'

def digitIn? (base : Nat) (c : Char) : Option Nat :=
  let value :=
    if isDecimal c then c.toNat - 48
    else if 'a' ≤ c && c ≤ 'f' then c.toNat - 87
    else if 'A' ≤ c && c ≤ 'F' then c.toNat - 55
    else base
  if value < base then some value else none

def isDigitOrUnderscore (base : Nat) (c : Char) : Bool := c == '_' || (digitIn? base c).isSome

/-- The number that digits of a base spell; underscores do not count. -/
def numberIn (base : Nat) (chars : List Char) : Nat :=
  chars.foldl (fun number c => match digitIn? base c with
    | some digit => number * base + digit
    | none => number) 0

def digitsIn? (base : Nat) (chars : List Char) : Option Nat :=
  if chars.all (isDigitOrUnderscore base) && chars.any (· != '_') then some (numberIn base chars)
  else none

def sixtieth? (chars : List Char) : Option Nat :=
  match chars with
  | [c] => digitIn? 10 c
  | [c, d] => do
    let tens ← digitIn? 6 c
    let ones ← digitIn? 10 d
    some (tens * 10 + ones)
  | _ => none

def splitColons : List Char → List (List Char)
  | [] => [[]]
  | ':' :: rest => [] :: splitColons rest
  | c :: rest => match splitColons rest with
    | [] => [[c]]
    | part :: parts => (c :: part) :: parts

def addSixtieths (number : Nat) : List (List Char) → Option Nat
  | [] => some number
  | place :: places => do
    let value ← sixtieth? place
    addSixtieths (number * 60 + value) places

def magnitude? (chars : List Char) : Option Nat :=
  match chars with
  | ['0'] => some 0
  | '0' :: 'b' :: digits => digitsIn? 2 digits
  | '0' :: 'x' :: digits => digitsIn? 16 digits
  | '0' :: digits => if digits.all (isDigitOrUnderscore 8) then some (numberIn 8 digits) else none
  | first :: _ =>
    if !isDecimal first then none
    else match splitColons chars with
      | [] => none
      | whole :: places => do
        let whole ← digitsIn? 10 whole
        addSixtieths whole places
  | [] => none

def splitSign (chars : List Char) : Bool × List Char :=
  match chars with
  | '-' :: rest => (true, rest)
  | '+' :: rest => (false, rest)
  | _ => (false, chars)

def wholeNumber? (chars : List Char) : Option Int :=
  let (negative, digits) := splitSign chars
  (magnitude? digits).map fun (size : Nat) => if negative then -(size : Int) else size

def exponent? (chars : List Char) : Option Int :=
  match chars with
  | [] => some 0
  | letter :: sign :: digits =>
    if (letter == 'e' || letter == 'E') && (sign == '-' || sign == '+') && !digits.isEmpty
        && digits.all isDecimal then
      let size : Int := numberIn 10 digits
      some (if sign == '-' then -size else size)
    else none
  | _ => none

def decimalNumber? (chars : List Char) : Option Double :=
  let (negative, rest) := splitSign chars
  let whole := rest.takeWhile (isDigitOrUnderscore 10)
  match rest.drop whole.length with
  | '.' :: behind =>
    let fraction := behind.takeWhile (isDigitOrUnderscore 10)
    let wellFormed :=
      if whole.isEmpty then
        rest.length == chars.length && (fraction.head?.map isDecimal).getD false
      else (whole.head?.map isDecimal).getD false
    if wellFormed then
      (exponent? (behind.drop fraction.length)).map fun exponent =>
        let places := (fraction.filter isDecimal).length
        Double.ofDecimal negative (numberIn 10 (whole ++ fraction)) (exponent - places)
    else none
  | _ => none

def nonFinite? (text : String) : Option Double :=
  let infinities := [".inf", ".Inf", ".INF"]
  if infinities.contains text || (infinities.map ("+" ++ ·)).contains text then
    some (Double.infinity false)
  else if (infinities.map ("-" ++ ·)).contains text then some (Double.infinity true)
  else if [".nan", ".NaN", ".NAN"].contains text then some ⟨0x7ff8000000000000⟩
  else none

def decimalLength (chars : List Char) : Nat :=
  match (splitSign chars).2 with
  | '0' :: _ => 0
  | digits => ((digits.takeWhile (isDigitOrUnderscore 10)).filter isDecimal).length

def wholeValue (text : String) (number : Int) : Except Fault Value :=
  let digits := decimalLength text.toList
  if Number.digitLimit < digits then .error (.overlong digits) else .ok (.int number)

def plainValue (text : String) : Except Fault Value :=
  if keyWords.contains text then .error .malformed
  else if nullWords.contains text then .ok .null
  else if trueWords.contains text then .ok (.bool true)
  else if falseWords.contains text then .ok (.bool false)
  else match nonFinite? text, decimalNumber? text.toList, wholeNumber? text.toList with
    | some number, _, _ => .ok (.atom (.float number))
    | none, some number, _ => .ok (.atom (.float number))
    | none, none, some number => wholeValue text number
    | none, none, none => .ok (.text text)

def scalarValue (text : String) (isPlain : Bool) : Except Fault Value :=
  if isPlain then plainValue text else .ok (.text text)

end QueryGate.Yaml
