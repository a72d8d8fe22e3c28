/-!
Texts as bytes. A text may come in UTF-8, or in units of sixteen or thirty-two bits in either order; a
mark at the start, or else the zeros among the first bytes, tell which. Halves of surrogate pairs may
stand alone. No character is such a half, so whoever reads says which character stands in for each.
-/

namespace QueryGate.Text

/-! ## Surrogates -/

def isHighSurrogate (code : Nat) : Bool := 0xd800 ≤ code && code ≤ 0xdbff

def isLowSurrogate (code : Nat) : Bool := 0xdc00 ≤ code && code ≤ 0xdfff

/-- The character of a code, or the one that stands in for half a surrogate pair alone. -/
def charOfCode (standIn : Nat → Char) (code : Nat) : Char :=
  if isHighSurrogate code || isLowSurrogate code then standIn code else Char.ofNat code

def joinSurrogates (high low : Nat) : Nat := 0x10000 + (high - 0xd800) * 0x400 + (low - 0xdc00)

/-! ## Encodings -/

inductive ByteOrder where
  | littleEndian
  | bigEndian
deriving DecidableEq, Repr

inductive Encoding where
  | utf8
  | utf16 (order : ByteOrder)
  | utf32 (order : ByteOrder)
deriving DecidableEq, Repr

def lastCode : Nat := 0x10ffff

def unitOf (order : ByteOrder) (bytes : List UInt8) : Nat :=
  let ordered := match order with
    | .littleEndian => bytes.reverse
    | .bigEndian => bytes
  ordered.foldl (fun number byte => number * 256 + byte.toNat) 0

def units16? (order : ByteOrder) : List UInt8 → Option (List Nat)
  | [] => some []
  | a :: b :: rest => (units16? order rest).map (unitOf order [a, b] :: ·)
  | _ => none

def units32? (order : ByteOrder) : List UInt8 → Option (List Nat)
  | [] => some []
  | a :: b :: c :: d :: rest => (units32? order rest).map (unitOf order [a, b, c, d] :: ·)
  | _ => none

def charsOfUnits (standIn : Nat → Char) : List Nat → List Char
  | [] => []
  | [unit] => [charOfCode standIn unit]
  | first :: second :: rest =>
    if isHighSurrogate first && isLowSurrogate second then
      Char.ofNat (joinSurrogates first second) :: charsOfUnits standIn rest
    else charOfCode standIn first :: charsOfUnits standIn (second :: rest)

/-- What the first byte of a character in UTF-8 tells: how many bytes follow, the high bits of the code,
and the least code that needs so many bytes. -/
structure LeadByte where
  following : Nat
  high : Nat
  least : Nat

def LeadByte.ofByte? (byte : UInt8) : Option LeadByte :=
  let number := byte.toNat
  if number < 0x80 then some ⟨0, number, 0⟩
  else if number < 0xc0 then none
  else if number < 0xe0 then some ⟨1, number - 0xc0, 0x80⟩
  else if number < 0xf0 then some ⟨2, number - 0xe0, 0x800⟩
  else if number < 0xf8 then some ⟨3, number - 0xf0, 0x10000⟩
  else none

def isFollowing (byte : UInt8) : Bool := 0x80 ≤ byte.toNat && byte.toNat < 0xc0

/-- The character that a first byte and the bytes behind it spell. No character is spelled with more
bytes than it needs. -/
def LeadByte.char? (standIn : Nat → Char) (lead : LeadByte) (behind : List UInt8) : Option Char :=
  let code := behind.foldl (fun code byte => code * 64 + (byte.toNat - 0x80)) lead.high
  if behind.length = lead.following && behind.all isFollowing && lead.least ≤ code && code ≤ lastCode
  then some (charOfCode standIn code)
  else none

def charsOfUtf8? (standIn : Nat → Char) : List UInt8 → Option (List Char)
  | [] => some []
  | first :: rest => do
    let lead ← LeadByte.ofByte? first
    let c ← lead.char? standIn (rest.take lead.following)
    let others ← charsOfUtf8? standIn (rest.drop lead.following)
    some (c :: others)
termination_by data => data.length
decreasing_by simp only [List.length_cons, List.length_drop]; omega

def Encoding.decode? (standIn : Nat → Char) (encoding : Encoding) (data : List UInt8) :
    Option (List Char) :=
  match encoding with
  | .utf8 => charsOfUtf8? standIn data
  | .utf16 order => (units16? order data).map (charsOfUnits standIn)
  | .utf32 order => do
    let units ← units32? order data
    if units.all (· ≤ lastCode) then some (units.map (charOfCode standIn)) else none

/-! ## Detection -/

/-- The marks that tell an encoding at the start of a text. A mark of four bytes may start with one of
two, so the longer ones come first. -/
def encodingMarks : List (List UInt8 × Encoding) := [
  ([0x00, 0x00, 0xfe, 0xff], .utf32 .bigEndian),
  ([0xff, 0xfe, 0x00, 0x00], .utf32 .littleEndian),
  ([0xfe, 0xff], .utf16 .bigEndian),
  ([0xff, 0xfe], .utf16 .littleEndian),
  ([0xef, 0xbb, 0xbf], .utf8)]

/-- The encoding of a text without a mark whose first character is ASCII: the zeros around it tell the
width of a unit and the order. -/
def encodingOfZeros : List UInt8 → Encoding
  | [a, b] =>
    if a == 0 then .utf16 .bigEndian
    else if b == 0 then .utf16 .littleEndian
    else .utf8
  | a :: b :: c :: d :: _ =>
    if a == 0 then if b == 0 then .utf32 .bigEndian else .utf16 .bigEndian
    else if b == 0 then if c == 0 && d == 0 then .utf32 .littleEndian else .utf16 .littleEndian
    else .utf8
  | _ => .utf8

def detectEncoding (data : List UInt8) : Encoding × List UInt8 :=
  match encodingMarks.find? fun entry => entry.1.isPrefixOf data with
  | some (mark, encoding) => (encoding, data.drop mark.length)
  | none => (encodingOfZeros data, data)

def decodeBytes? (standIn : Nat → Char) (data : List UInt8) : Option (List Char) :=
  let (encoding, rest) := detectEncoding data
  encoding.decode? standIn rest

end QueryGate.Text
