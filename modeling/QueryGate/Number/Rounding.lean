import QueryGate.Number.Double
/-!
Rounding to the nearest double. A positive quotient of whole numbers is cut to a significand of 53 bits,
or to the last place of the smallest doubles, and a half goes to the even neighbour; what is too large
becomes an infinity. Decimal texts and exact products both round through this one function.
-/

namespace QueryGate

/-- The whole number nearest to a quotient, a half going to the even one. -/
def roundHalfEven (numerator denominator : Nat) : Nat :=
  let quotient := numerator / denominator
  let remainder := numerator % denominator
  if 2 * remainder < denominator then quotient
  else if denominator < 2 * remainder then quotient + 1
  else quotient + quotient % 2

/-- The result lies within half a unit of the quotient. -/
theorem roundHalfEven_near (numerator : Nat) {denominator : Nat} (positive : 0 < denominator) :
    2 * numerator ≤ (2 * roundHalfEven numerator denominator + 1) * denominator ∧
      2 * roundHalfEven numerator denominator * denominator ≤ 2 * numerator + denominator := by
  have whole := Nat.div_add_mod numerator denominator
  have small := Nat.mod_lt numerator positive
  unfold roundHalfEven
  generalize numerator / denominator = quotient at *
  generalize numerator % denominator = remainder at *
  subst whole
  have product : denominator * quotient = quotient * denominator := Nat.mul_comm ..
  dsimp only
  split
  · constructor <;> (rw [product]; simp only [Nat.add_mul, Nat.mul_assoc]; omega)
  · split
    · constructor <;> (rw [product]; simp only [Nat.add_mul, Nat.mul_add, Nat.mul_assoc]; omega)
    · have tie : 2 * remainder = denominator := by omega
      rcases Nat.mod_two_eq_zero_or_one quotient with even | odd
      · constructor <;> (rw [product]; simp only [even, Nat.add_mul, Nat.mul_assoc]; omega)
      · constructor <;> (rw [product]; simp only [odd, Nat.add_mul, Nat.mul_add, Nat.mul_assoc]; omega)

def floorLog2 (numerator denominator : Nat) : Int :=
  let guess : Int := (Nat.log2 numerator : Int) - Nat.log2 denominator
  let (above, below) := powerRatio 2 guess
  if denominator * above ≤ numerator * below then guess else guess - 1

namespace Double

def ofRatio (negative : Bool) (numerator denominator : Nat) : Double :=
  if numerator = 0 then ofMagnitude negative 0 else
  let scale := max (floorLog2 numerator denominator - 52) (-1074)
  let (above, below) := powerRatio 2 scale
  let significand := roundHalfEven (numerator * below) (denominator * above)
  let magnitude := (scale + 1074).toNat * fractionCount + significand
  if magnitude < specialExponent * fractionCount then ofMagnitude negative magnitude
  else infinity negative

/-- Decimal exponents from here on are beyond the largest double, and below its negative under the
smallest, whatever the leading digit. -/
def decimalReach : Int := 400

def ofDecimal (negative : Bool) (digits : Nat) (exponent : Int) : Double :=
  if digits = 0 then ofMagnitude negative 0 else
  let leading := ((Nat.toDigits 10 digits).length : Int) + exponent
  if decimalReach < leading then infinity negative
  else if leading < -decimalReach then ofMagnitude negative 0
  else
    let (above, below) := powerRatio 10 exponent
    ofRatio negative (digits * above) below

end Double

end QueryGate
