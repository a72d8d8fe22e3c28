import QueryGate.Value.Basic
import QueryGate.Number.Rounding
import QueryGate.Number.Integer
import QueryGate.Text.Encoding
/-!
Reading JSON texts into values. The reader goes over the text once, from the left, and stops at the
first fault, which it names together with the place of the character where it lies. Containers may be
nested as far as the stack of the decoder goes, whole numbers may be written with a limited number of digits,
and the words for numbers that are not finite are refused by name. A number with a fraction or an exponent becomes the
nearest double, which is an infinity if it is too large.
-/

namespace QueryGate.Json

open QueryGate.Text

inductive Fault where
  | byteOrderMark
  | expectingValue
  | expectingName
  | expectingColon
  | expectingComma
  | unterminatedString
  | controlCharacter
  | escape
  | unicodeEscape
  | extraData
deriving DecidableEq, Repr

def Fault.description : Fault → String
  | .byteOrderMark => "Unexpected UTF-8 BOM (decode using utf-8-sig)"
  | .expectingValue => "Expecting value"
  | .expectingName => "Expecting property name enclosed in double quotes"
  | .expectingColon => "Expecting ':' delimiter"
  | .expectingComma => "Expecting ',' delimiter"
  | .unterminatedString => "Unterminated string starting at"
  | .controlCharacter => "Invalid control character at"
  | .escape => "Invalid \\escape"
  | .unicodeEscape => "Invalid \\uXXXX escape"
  | .extraData => "Extra data"

inductive ReadError where
  | malformed (fault : Fault) (place : Nat)
  | nonFinite (name : String)
  | tooDeep
  | tooManyDigits (count : Nat)
deriving DecidableEq, Repr

def lineAndColumn (chars : List Char) (place : Nat) : Nat × Nat :=
  let before := chars.take place
  (before.count '\n' + 1, (before.reverse.takeWhile (· != '\n')).length + 1)

def faultMessage (chars : List Char) (fault : Fault) (place : Nat) : String :=
  let (line, column) := lineAndColumn chars place
  fault.description ++ ": line " ++ toString line ++ " column " ++ toString column ++
    " (char " ++ toString place ++ ")"

structure Cursor where
  place : Nat
  rest : List Char

def Cursor.advance (cursor : Cursor) (count : Nat) : Cursor :=
  ⟨cursor.place + count, cursor.rest.drop count⟩

def isSpace (c : Char) : Bool := c == ' ' || c == '\t' || c == '\n' || c == '\r'

def Cursor.skip (cursor : Cursor) : Cursor :=
  cursor.advance (cursor.rest.takeWhile isSpace).length

def refuse {α : Type} (fault : Fault) (place : Nat) : Except ReadError α :=
  .error (.malformed fault place)

/-- How texts are decoded: how many containers may lie around a value, and which character stands in for half
of a surrogate pair that is escaped alone. -/
structure Decoder where
  nestingLimit : Nat
  standIn : Nat → Char

/-! ## Strings -/

def hexValue? (c : Char) : Option Nat :=
  if '0' ≤ c && c ≤ '9' then some (c.toNat - 48)
  else if 'a' ≤ c && c ≤ 'f' then some (c.toNat - 87)
  else if 'A' ≤ c && c ≤ 'F' then some (c.toNat - 55)
  else none

def hexQuad? (a b c d : Char) : Option Nat := do
  let a ← hexValue? a
  let b ← hexValue? b
  let c ← hexValue? c
  let d ← hexValue? d
  some (((a * 16 + b) * 16 + c) * 16 + d)

def escapedChar? (c : Char) : Option Char :=
  match c with
  | '"' => some '"'
  | '\\' => some '\\'
  | '/' => some '/'
  | 'b' => some (Char.ofNat 8)
  | 'f' => some (Char.ofNat 12)
  | 'n' => some '\n'
  | 'r' => some '\r'
  | 't' => some '\t'
  | _ => none

/-- The code of a character behind `\\u`, and how many characters the escape takes behind the backslash.
Two escapes that make a surrogate pair are one character. The text must go on behind the four digits,
and the second half of a pair is only looked for if it goes on behind that half too. -/
def readUnicodeEscape (standIn : Nat → Char) (place : Nat) (rest : List Char) :
    Except ReadError (Char × Nat) :=
  match rest with
  | a :: b :: c :: d :: rest =>
    match hexQuad? a b c d, rest with
    | none, _ | _, [] => refuse .unicodeEscape place
    | some code, '\\' :: 'u' :: e :: f :: g :: h :: further =>
      if isHighSurrogate code && !further.isEmpty then
        match hexQuad? e f g h with
        | none => refuse .unicodeEscape (place + 6)
        | some second =>
          if isLowSurrogate second then .ok (Char.ofNat (joinSurrogates code second), 11)
          else .ok (charOfCode standIn code, 5)
      else .ok (charOfCode standIn code, 5)
    | some code, _ => .ok (charOfCode standIn code, 5)
  | _ => refuse .unicodeEscape place

def readEscape (standIn : Nat → Char) (opening place : Nat) (rest : List Char) :
    Except ReadError (Char × Nat) :=
  match rest with
  | [] => refuse .unterminatedString opening
  | 'u' :: rest => readUnicodeEscape standIn (place + 1) rest
  | c :: _ =>
    match escapedChar? c with
    | some escaped => .ok (escaped, 1)
    | none => refuse .escape place

/-- Reads a string up to its closing quotation mark. `opening` is the place of the opening one, and
`known` holds the characters read so far in reverse. -/
def readString (standIn : Nat → Char) (opening place : Nat) (chars known : List Char) :
    Except ReadError (String × Cursor) :=
  match chars with
  | [] => refuse .unterminatedString opening
  | '"' :: rest => .ok (String.ofList known.reverse, ⟨place + 1, rest⟩)
  | '\\' :: rest =>
    match readEscape standIn opening place rest with
    | .error problem => .error problem
    | .ok (c, count) => readString standIn opening (place + 1 + count) (rest.drop count) (c :: known)
  | c :: rest =>
    if c.toNat < 0x20 then refuse .controlCharacter place
    else readString standIn opening (place + 1) rest (c :: known)
termination_by chars.length
decreasing_by all_goals grind

/-! ## Numbers -/

def isDigit (c : Char) : Bool := '0' ≤ c && c ≤ '9'

def digitsValue (digits : List Char) : Nat :=
  digits.foldl (fun number c => number * 10 + (c.toNat - 48)) 0

/-- The parts of a number: its sign, the digits before the point, those behind it, the exponent, and
the count of characters. -/
structure Numeral where
  negative : Bool
  whole : List Char
  fraction : List Char
  exponent : Option Int
  length : Nat

def wholeDigits (chars : List Char) : List Char :=
  match chars with
  | '0' :: _ => ['0']
  | _ => chars.takeWhile isDigit

def fractionDigits (chars : List Char) : List Char :=
  match chars with
  | '.' :: rest => rest.takeWhile isDigit
  | _ => []

def readExponent? (chars : List Char) : Option (Int × Nat) :=
  match chars with
  | [] => none
  | letter :: rest =>
    if letter == 'e' || letter == 'E' then
      let (negative, signs) := match rest with
        | '-' :: _ => (true, 1)
        | '+' :: _ => (false, 1)
        | _ => (false, 0)
      let digits := (rest.drop signs).takeWhile isDigit
      if digits.isEmpty then none
      else
        let size : Int := digitsValue digits
        some (if negative then -size else size, 1 + signs + digits.length)
    else none

def readNumeral? (chars : List Char) : Option Numeral :=
  let negative := chars.head? == some '-'
  let signs := if negative then 1 else 0
  let unsigned := chars.drop signs
  let whole := wholeDigits unsigned
  if whole.isEmpty then none
  else
    let behindWhole := unsigned.drop whole.length
    let fraction := fractionDigits behindWhole
    let fractionLength := if fraction.isEmpty then 0 else fraction.length + 1
    let exponent := readExponent? (behindWhole.drop fractionLength)
    some {
      negative := negative
      whole := whole
      fraction := fraction
      exponent := exponent.map Prod.fst
      length := signs + whole.length + fractionLength + exponent.elim 0 Prod.snd }

/-- The value of a number: whole unless it has a fraction or an exponent. -/
def Numeral.value (numeral : Numeral) : Except ReadError Value :=
  if numeral.fraction.isEmpty && numeral.exponent.isNone then
    if Number.digitLimit < numeral.whole.length then .error (.tooManyDigits numeral.whole.length)
    else
      let size : Int := digitsValue numeral.whole
      .ok (.int (if numeral.negative then -size else size))
  else
    let exponent := numeral.exponent.getD 0 - numeral.fraction.length
    let digits := digitsValue (numeral.whole ++ numeral.fraction)
    .ok (.atom (.float (Double.ofDecimal numeral.negative digits exponent)))

/-! ## Values -/

inductive Word where
  | value (value : Value)
  | nonFinite

def words : List (String × Word) :=
  [("null", .value .null), ("true", .value (.bool true)), ("false", .value (.bool false)),
    ("NaN", .nonFinite), ("Infinity", .nonFinite), ("-Infinity", .nonFinite)]

def word? (chars : List Char) : Option (String × Word) :=
  words.find? fun entry => entry.1.toList.isPrefixOf chars

abbrev Reader := Cursor → Except ReadError (Value × Cursor)

/-- Reads the items of a list behind its opening bracket or a comma; `fuel` bounds their number and
`known` holds the items read so far in reverse. -/
def readItems (readItem : Reader) : Nat → Cursor → List Value → Except ReadError (Value × Cursor)
  | 0, cursor, _ => refuse .expectingComma cursor.place
  | fuel + 1, cursor, known => do
    let (item, behind) ← readItem cursor
    let behind := behind.skip
    match behind.rest with
    | ']' :: _ => .ok (.list (item :: known).reverse, behind.advance 1)
    | ',' :: _ => readItems readItem fuel (behind.advance 1).skip (item :: known)
    | _ => refuse .expectingComma behind.place

def readName (standIn : Nat → Char) (cursor : Cursor) : Except ReadError (String × Cursor) := do
  match cursor.rest with
  | '"' :: rest =>
    let (name, behind) ← readString standIn cursor.place (cursor.place + 1) rest []
    let behind := behind.skip
    match behind.rest with
    | ':' :: _ => .ok (name, (behind.advance 1).skip)
    | _ => refuse .expectingColon behind.place
  | _ => refuse .expectingName cursor.place

def readMembers (standIn : Nat → Char) (readItem : Reader) :
    Nat → Cursor → List (Atom × Value) → Except ReadError (Value × Cursor)
  | 0, cursor, _ => refuse .expectingComma cursor.place
  | fuel + 1, cursor, known => do
    let (name, behind) ← readName standIn cursor
    let (item, behind) ← readItem behind
    let behind := behind.skip
    let known := (Atom.text name, item) :: known
    match behind.rest with
    | '}' :: _ => .ok (.map (Entries.ofSettings known.reverse), behind.advance 1)
    | ',' :: _ => readMembers standIn readItem fuel (behind.advance 1).skip known
    | _ => refuse .expectingComma behind.place

def readScalar (standIn : Nat → Char) (cursor : Cursor) : Except ReadError (Value × Cursor) :=
  match cursor.rest with
  | '"' :: rest => do
    let (chars, behind) ← readString standIn cursor.place (cursor.place + 1) rest []
    .ok (.text chars, behind)
  | chars =>
    match word? chars with
    | some (name, .value value) => .ok (value, cursor.advance name.length)
    | some (name, .nonFinite) => .error (.nonFinite name)
    | none =>
      match readNumeral? chars with
      | some numeral => numeral.value.map fun value => (value, cursor.advance numeral.length)
      | none => refuse .expectingValue cursor.place

/-- Reads one value. What lists and objects hold is read by `inner`; without it they are too deep. -/
def readWith (standIn : Nat → Char) (inner : Option Reader) (cursor : Cursor) :
    Except ReadError (Value × Cursor) :=
  match cursor.rest with
  | '[' :: rest =>
    match inner with
    | none => .error .tooDeep
    | some readItem =>
      let behind := (cursor.advance 1).skip
      match behind.rest with
      | ']' :: _ => .ok (.list [], behind.advance 1)
      | _ => readItems readItem (rest.length + 1) behind []
  | '{' :: rest =>
    match inner with
    | none => .error .tooDeep
    | some readItem =>
      let behind := (cursor.advance 1).skip
      match behind.rest with
      | '}' :: _ => .ok (.empty, behind.advance 1)
      | _ => readMembers standIn readItem (rest.length + 1) behind []
  | _ => readScalar standIn cursor

def readValue (standIn : Nat → Char) : Nat → Reader
  | 0 => readWith standIn none
  | allowance + 1 => readWith standIn (some (readValue standIn allowance))

def Decoder.readChars (decoder : Decoder) (chars : List Char) : Except ReadError Value := do
  let (value, behind) ← readValue decoder.standIn decoder.nestingLimit (Cursor.skip ⟨0, chars⟩)
  let behind := behind.skip
  if behind.rest.isEmpty then .ok value else refuse .extraData behind.place

def byteOrderMark : Char := Char.ofNat 0xfeff

def Decoder.read (decoder : Decoder) (text : String) : Except ReadError Value :=
  let chars := text.toList
  if chars.head? == some byteOrderMark then refuse .byteOrderMark 0 else decoder.readChars chars

end QueryGate.Json
