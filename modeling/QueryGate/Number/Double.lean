import QueryGate.Number.Power
/-!
Binary floating-point numbers of 64 bits, by their words. A finite double is read as a sign, a whole
significand and a power of two, and every question about it is answered in whole numbers, so that
nothing here rests on the machine's own arithmetic.
-/

namespace QueryGate

/-- A double is its word: one sign bit, eleven exponent bits and 52 fraction bits. -/
structure Double where
  bits : UInt64
deriving DecidableEq, Repr, Inhabited

namespace Double

def fractionCount : Nat := 0x10000000000000

def exponentCount : Nat := 0x800

def signWeight : Nat := 0x8000000000000000

def specialExponent : Nat := 0x7ff

def isNegative (d : Double) : Bool := signWeight ≤ d.bits.toNat

def exponentField (d : Double) : Nat := d.bits.toNat / fractionCount % exponentCount

def fractionField (d : Double) : Nat := d.bits.toNat % fractionCount

def isFinite (d : Double) : Bool := d.exponentField != specialExponent

def isNaN (d : Double) : Bool := d.exponentField == specialExponent && d.fractionField != 0

def isInfinite (d : Double) : Bool := d.exponentField == specialExponent && d.fractionField == 0

/-- A finite double has the magnitude `significand * 2 ^ exponent`. -/
def significand (d : Double) : Nat :=
  if d.exponentField = 0 then d.fractionField else d.fractionField + fractionCount

def exponent (d : Double) : Int := (max d.exponentField 1 : Nat) - 1075

def isZero (d : Double) : Bool := d.isFinite && d.significand == 0

def ofMagnitude (negative : Bool) (magnitude : Nat) : Double :=
  ⟨UInt64.ofNat (magnitude + if negative then signWeight else 0)⟩

def infinity (negative : Bool) : Double :=
  ofMagnitude negative (specialExponent * fractionCount)

def one : Double := ⟨0x3ff0000000000000⟩

def magnitudeRatio (d : Double) : Nat × Nat :=
  let (above, below) := powerRatio 2 d.exponent
  (d.significand * above, below)

def ratio (d : Double) : Int × Nat :=
  let (numerator, denominator) := d.magnitudeRatio
  (if d.isNegative then -(numerator : Int) else numerator, denominator)

def truncate (d : Double) : Int := let (numerator, denominator) := d.ratio; numerator.tdiv denominator

def equalsInt (d : Double) (n : Int) : Bool :=
  d.isFinite && (let (numerator, denominator) := d.ratio; numerator == n * denominator)

def isBelowZero (d : Double) : Bool := d.isNegative && !d.isNaN && !d.isZero

def atMostInt (d : Double) (n : Int) : Bool :=
  if d.isFinite then let (numerator, denominator) := d.ratio; numerator ≤ n * denominator
  else d.isInfinite && d.isNegative

/-- Whether a double is above an integer. What is no number is neither above it nor at most it. -/
def aboveInt (d : Double) (n : Int) : Bool := !d.isNaN && !d.atMostInt n

def isBelow (d e : Double) : Bool :=
  if d.isFinite && e.isFinite then
    let (first, firstPart) := d.ratio
    let (second, secondPart) := e.ratio
    first * secondPart < second * firstPart
  else !d.isNaN && !e.isNaN && d != e && (d.isInfinite && d.isNegative || e.isInfinite && !e.isNegative)

/-- Equality of the numbers, not of the words: the zeros agree and what is no number equals nothing. -/
def numericallyEqual (d e : Double) : Bool :=
  !d.isNaN && !e.isNaN && (d == e || (d.isZero && e.isZero))

end Double

end QueryGate
