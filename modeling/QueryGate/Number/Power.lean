/-!
Powers of a whole number with exponents of either sign, as quotients of whole numbers.
-/

namespace QueryGate

/-- A power as a quotient: where the exponent is negative the power stands below the line. -/
def powerRatio (base : Nat) : Int → Nat × Nat
  | .ofNat e => (Nat.pow base e, 1)
  | .negSucc e => (1, Nat.pow base (e + 1))

/-- Both numbers of a power of a positive number are positive. -/
theorem powerRatio_pos {base : Nat} (positive : 0 < base) (exponent : Int) :
    0 < (powerRatio base exponent).1 ∧ 0 < (powerRatio base exponent).2 := by
  cases exponent with
  | ofNat e => exact ⟨Nat.pow_pos positive, Nat.one_pos⟩
  | negSucc e => exact ⟨Nat.one_pos, Nat.pow_pos positive⟩

end QueryGate
