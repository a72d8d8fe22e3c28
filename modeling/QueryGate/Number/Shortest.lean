import QueryGate.Number.Rounding
/-!
The shortest decimal text of a double. Among the decimals that round to a double, the one with the
fewest digits is taken, and of several the nearest. The layout of the digits is positional for
magnitudes from a ten-thousandth up to ten to the sixteenth, and has an exponent beyond.
-/

namespace QueryGate

namespace Double

/-- The exponent of the leading decimal digit of a positive quotient: the guess comes from the leading
bit and is one off at most. -/
def floorLog10 (numerator denominator : Nat) : Int :=
  let atLeast (exponent : Int) : Bool :=
    denominator * (powerRatio 10 exponent).1 ≤ numerator * (powerRatio 10 exponent).2
  let guess : Int := (floorLog2 numerator denominator * 30103).fdiv 100000
  if !atLeast guess then guess - 1
  else if atLeast (guess + 1) then guess + 1
  else guess

/-- The reals that round to a positive double: its quarter ulps, their size as a quotient, and whether
the ends belong. -/
structure Interval where
  low : Nat
  middle : Nat
  high : Nat
  unit : Nat × Nat
  closed : Bool

/-- The interval of reals that round to a positive finite double. The gap below a power of two is half
the gap above it. -/
def interval (d : Double) : Interval :=
  let significand := d.significand
  let narrow := d.fractionField = 0 && 1 < d.exponentField
  { low := 4 * significand - if narrow then 1 else 2
    middle := 4 * significand
    high := 4 * significand + 2
    unit := powerRatio 2 (d.exponent - 2)
    closed := significand % 2 = 0 }

def Interval.holds (range : Interval) (grid : Nat × Nat) (digits : Nat) : Bool :=
  let point := digits * grid.1 * range.unit.2
  let scale := range.unit.1 * grid.2
  if range.closed then range.low * scale ≤ point && point ≤ range.high * scale
  else range.low * scale < point && point < range.high * scale

/-- The multiple of a grid that stands for the interval: of its two multiples next to the middle the
nearer one that lies in the interval, and the even one at a tie. -/
def Interval.choose? (range : Interval) (grid : Nat × Nat) : Option Nat :=
  let middle := range.middle * range.unit.1 * grid.2
  let step := grid.1 * range.unit.2
  let below := middle / step
  let nearest := roundHalfEven middle step
  let other := if nearest = below then below + 1 else below
  if range.holds grid nearest then some nearest
  else if range.holds grid other then some other
  else none

def searchGrids (range : Interval) (leading : Int) : Nat → Nat → Nat × Int
  | 0, places =>
    let exponent := leading - places + 1
    (0, exponent)
  | attempts + 1, places =>
    let exponent := leading - places + 1
    match range.choose? (powerRatio 10 exponent) with
    | some digits => (digits, exponent)
    | none => searchGrids range leading attempts (places + 1)

def dropZeros : Nat → Nat × Int → Nat × Int
  | 0, decimal => decimal
  | bound + 1, (digits, exponent) =>
    if digits % 10 = 0 then dropZeros bound (digits / 10, exponent + 1) else (digits, exponent)

/-- The digits and the decimal exponent of the shortest decimal that rounds to a positive finite
double. Seventeen digits always suffice. -/
def shortestDecimal (d : Double) : Nat × Int :=
  let (numerator, denominator) := d.magnitudeRatio
  dropZeros 20 (searchGrids d.interval (floorLog10 numerator denominator) 18 1)

/-- The layout of a text for numbers: the exponents of the leading digit that are written positionally,
and the least count of digits in a written exponent. -/
structure NumberLayout where
  firstPositional : Int
  lastPositional : Int
  exponentDigits : Nat

/-- Numbers from a ten-thousandth up to ten to the sixteenth are written positionally; exponents have a
sign and two digits at least. -/
def layout : NumberLayout := ⟨-4, 15, 2⟩

def NumberLayout.write (form : NumberLayout) (digits : List Char) (leading : Int) : List Char :=
  if form.firstPositional ≤ leading && leading ≤ form.lastPositional then
    match leading with
    | .negSucc zeros => '0' :: '.' :: List.replicate zeros '0' ++ digits
    | .ofNat whole =>
      let missing := whole + 1 - digits.length
      let fraction := digits.drop (whole + 1)
      digits.take (whole + 1) ++ List.replicate missing '0' ++ '.' ::
        (if fraction.isEmpty then ['0'] else fraction)
  else
    let exponent := Nat.toDigits 10 leading.natAbs
    let fraction := digits.drop 1
    digits.take 1 ++ (if fraction.isEmpty then [] else '.' :: fraction) ++
      'e' :: (if leading < 0 then '-' else '+') ::
      List.replicate (form.exponentDigits - exponent.length) '0' ++ exponent

def text (d : Double) : String :=
  let sign := if d.isNegative then ['-'] else []
  if d.isNaN then "nan"
  else if d.isInfinite then String.ofList (sign ++ "inf".toList)
  else if d.isZero then String.ofList (sign ++ "0.0".toList)
  else
    let (digits, exponent) := d.shortestDecimal
    let spelled := Nat.toDigits 10 digits
    String.ofList (sign ++ layout.write spelled (exponent + spelled.length - 1))

end Double

end QueryGate
