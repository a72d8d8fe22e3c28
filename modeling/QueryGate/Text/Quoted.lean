import QueryGate.Text.Printable
/-!
Texts inside quotation marks, as messages show them. The mark is an apostrophe; a text that holds an
apostrophe and no double quote is put between double quotes instead. Backslashes, the mark itself and
unprintable characters are escaped.
-/

namespace QueryGate.Text

def apostrophe : Char := Char.ofNat 39

def doubleQuote : Char := Char.ofNat 34

def quotationMark (chars : List Char) : Char :=
  if chars.contains apostrophe && !chars.contains doubleQuote then doubleQuote else apostrophe

def hexadecimal (width number : Nat) : List Char :=
  let digits := Nat.toDigits 16 number
  List.replicate (width - digits.length) '0' ++ digits

def escapeChar (mark c : Char) : List Char :=
  if c == mark || c == '\\' then ['\\', c]
  else if c == '\n' then ['\\', 'n']
  else if c == '\r' then ['\\', 'r']
  else if c == '\t' then ['\\', 't']
  else if isPrintable c then [c]
  else if c.toNat < 0x100 then '\\' :: 'x' :: hexadecimal 2 c.toNat
  else if c.toNat < 0x10000 then '\\' :: 'u' :: hexadecimal 4 c.toNat
  else '\\' :: 'U' :: hexadecimal 8 c.toNat

def quote (text : String) : String :=
  let chars := text.toList
  let mark := quotationMark chars
  String.ofList (mark :: chars.flatMap (escapeChar mark) ++ [mark])

def quoteBytes (bytes : List UInt8) : String :=
  let chars := bytes.map fun byte => Char.ofNat byte.toNat
  let mark := quotationMark chars
  let spell (c : Char) : List Char :=
    if c.toNat < 0x7f then escapeChar mark c else '\\' :: 'x' :: hexadecimal 2 c.toNat
  String.ofList ('b' :: mark :: chars.flatMap spell ++ [mark])

end QueryGate.Text
