import QueryGate.Text.Blank
import QueryGate.Text.Digit
/-!
Whole numbers written as text: a sign, then digits of any script with single underscores between them,
and blanks around it all. Texts of more digits than the limit are not read, and numbers of more digits
cannot be written.
-/

namespace QueryGate.Number

open QueryGate.Text

def digitLimit : Nat := 4300

/-- The least number with more digits than the limit. -/
def overlongBound : Nat := Nat.pow 10 digitLimit

def limitMessage (remark : String) : String :=
  "Exceeds the limit (" ++ toString digitLimit ++ " digits) for integer string conversion" ++ remark ++
    "; use sys.set_int_max_str_digits() to increase the limit"

def overlongMessage (digits : Nat) : String :=
  limitMessage (": value has " ++ toString digits ++ " digits")

def write? (number : Int) : Option String :=
  if number.natAbs < overlongBound then some (toString number) else none

/-- Blanks around a number. The four separators of files, groups, records and units do not count. -/
def isNumberBlank (c : Char) : Bool := isBlank c && !(0x1c ≤ c.toNat && c.toNat ≤ 0x1f)

/-- Reads digits with single underscores between them, at least one digit, up to the end. The digits
come out in order; `fresh` says that a digit must come next. -/
def readDigits (fresh : Bool) : List Char → Option (List Nat)
  | [] => if fresh then none else some []
  | c :: rest =>
    if c == '_' then if fresh then none else readDigits true rest
    else match digitValue? c with
      | some digit => (readDigits false rest).map (digit :: ·)
      | none => none

def ofDigits (digits : List Nat) : Nat := digits.foldl (fun number digit => number * 10 + digit) 0

def trimNumber (chars : List Char) : List Char :=
  ((chars.dropWhile isNumberBlank).reverse.dropWhile isNumberBlank).reverse

def readInt? (chars : List Char) : Option Int :=
  let (negative, digits) := match trimNumber chars with
    | '-' :: digits => (true, digits)
    | '+' :: digits => (false, digits)
    | digits => (false, digits)
  match readDigits true digits with
  | none => none
  | some values =>
    if digitLimit < values.length then none
    else some (if negative then -(ofDigits values : Int) else ofDigits values)

end QueryGate.Number
