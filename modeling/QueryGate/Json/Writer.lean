import QueryGate.Value.Display
/-!
Writing values as JSON in ASCII. Moments and bytes are written as texts in their plain form, and keys
that are numbers or words are put between quotation marks; other keys cannot be written, and neither can
whole numbers with too many digits.
-/

namespace QueryGate.Json

open QueryGate.Text

def unitEscape (unit : Nat) : List Char := '\\' :: 'u' :: hexadecimal 4 unit

/-- The spelling of a character inside a string. Characters outside printable ASCII become one escape,
or two if they lie beyond sixteen bits. -/
def writeChar (c : Char) : List Char :=
  match c with
  | '"' => ['\\', '"']
  | '\\' => ['\\', '\\']
  | '\n' => ['\\', 'n']
  | '\r' => ['\\', 'r']
  | '\t' => ['\\', 't']
  | c =>
    if c.toNat = 8 then ['\\', 'b']
    else if c.toNat = 12 then ['\\', 'f']
    else if 0x20 ≤ c.toNat && c.toNat ≤ 0x7e then [c]
    else if c.toNat < 0x10000 then unitEscape c.toNat
    else
      let high := (c.toNat - 0x10000) / 0x400
      let low := (c.toNat - 0x10000) % 0x400
      unitEscape (0xd800 + high) ++ unitEscape (0xdc00 + low)

def writeString (chars : String) : String :=
  String.ofList (doubleQuote :: chars.toList.flatMap writeChar ++ [doubleQuote])

def writeDouble (number : Double) : String :=
  if number.isNaN then "NaN"
  else if number.isInfinite then if number.isNegative then "-Infinity" else "Infinity"
  else number.text

inductive WriteFault where
  | foreignKey
  | overlong
deriving DecidableEq, Repr

def writeInt (number : Int) : Except WriteFault String :=
  match Number.write? number with
  | some digits => .ok digits
  | none => .error .overlong

def writeAtom : Atom → Except WriteFault String
  | .null => .ok "null"
  | .bool flag => .ok (if flag then "true" else "false")
  | .int number => writeInt number
  | .float number => .ok (writeDouble number)
  | .text chars => .ok (writeString chars)
  | .date moment => .ok (writeString (moment.isoTextWith ' '))
  | .bytes data => .ok (writeString (quoteBytes data))

def writeKey : Atom → Except WriteFault String
  | .text chars => .ok (writeString chars)
  | .date _ | .bytes _ => .error .foreignKey
  | leaf => (writeAtom leaf).map writeString

mutual

/-- A value, from left to right, up to the first part that cannot be written. -/
def write : Value → Except WriteFault String
  | .atom leaf => writeAtom leaf
  | .list items => do
    let written ← writeItems items
    .ok ("[" ++ ", ".intercalate written ++ "]")
  | .map entries => do
    let written ← writeEntries entries
    .ok ("\x7b" ++ ", ".intercalate written ++ "\x7d")

def writeItems : List Value → Except WriteFault (List String)
  | [] => .ok []
  | item :: items => do
    let first ← write item
    let others ← writeItems items
    .ok (first :: others)

def writeEntries : List (Atom × Value) → Except WriteFault (List String)
  | [] => .ok []
  | (key, value) :: entries => do
    let key ← writeKey key
    let first ← write value
    let others ← writeEntries entries
    .ok ((key ++ ": " ++ first) :: others)

end

end QueryGate.Json
