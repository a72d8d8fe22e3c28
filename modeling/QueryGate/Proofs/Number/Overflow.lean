import Mathlib.Algebra.Order.Field.Power
import Mathlib.Data.Rat.Cast.Order
import Mathlib.Tactic.GCongr
import Mathlib.Tactic.Linarith
import Mathlib.Tactic.NormNum
import Mathlib.Tactic.Positivity
import Mathlib.Tactic.Ring
import QueryGate.Number.Rounding
/-!
Where rounding leaves the finite doubles. A quotient is cut behind its leading bit, so only the largest
exponent leaves a choice: there the significand may be rounded up to the next power of two, which no finite
double has. A magnitude is read as an infinity from half a unit below that power on.
-/

namespace QueryGate

/-! ## Powers and quotients -/

theorem powerRatio_eq {base : Nat} (exponent : Int) :
    ((powerRatio base exponent).1 : ℚ) / (powerRatio base exponent).2 = (base : ℚ) ^ exponent := by
  cases exponent with
  | ofNat e => simp [powerRatio]
  | negSucc e => simp [powerRatio, zpow_negSucc]

private theorem roundHalfEven_le {numerator denominator bound : Nat} (positive : 0 < denominator)
    (below : numerator ≤ bound * denominator) : roundHalfEven numerator denominator ≤ bound := by
  have near := (roundHalfEven_near numerator positive).2
  by_contra above
  nlinarith [Nat.lt_of_not_le above]

private theorem le_roundHalfEven {numerator denominator bound : Nat} (positive : 0 < denominator)
    (above : bound * denominator ≤ numerator) : bound ≤ roundHalfEven numerator denominator := by
  have near := (roundHalfEven_near numerator positive).1
  by_contra below
  nlinarith [Nat.lt_of_not_le below]

/-- A quotient is rounded to less than an even number exactly if it is nearer to the number before: the half
between them goes to the even one. -/
theorem roundHalfEven_lt_iff {numerator denominator bound : Nat} (positive : 0 < denominator)
    (even : bound % 2 = 0) :
    roundHalfEven numerator denominator < bound ↔ 2 * numerator + denominator < 2 * bound * denominator := by
  have whole := Nat.div_add_mod numerator denominator
  have small := Nat.mod_lt numerator positive
  unfold roundHalfEven
  generalize numerator / denominator = quotient at *
  generalize numerator % denominator = remainder at *
  subst whole
  rw [show 2 * bound * denominator = 2 * (denominator * bound) by ring]
  -- All but the products is linear, so what counts is how far the whole part is from the bound.
  have far (gap : Nat) (apart : quotient + gap ≤ bound) :
      denominator * quotient + denominator * gap ≤ denominator * bound := by
    rw [← Nat.mul_add]
    exact Nat.mul_le_mul_left denominator apart
  have close (gap : Nat) (near : bound ≤ quotient + gap) :
      denominator * bound ≤ denominator * quotient + denominator * gap := by
    rw [← Nat.mul_add]
    exact Nat.mul_le_mul_left denominator near
  rcases Nat.lt_or_ge quotient bound with below | above
  · have one := far 1 below
    rcases Nat.lt_or_ge (quotient + 1) bound with below | above
    · have two := far 2 below
      dsimp only
      split
      · omega
      · split <;> omega
    · have one' := close 1 above
      dsimp only
      split
      · omega
      · split <;> omega
  · have none := close 0 above
    dsimp only
    split
    · omega
    · split <;> omega

theorem powerRatio_le_iff {numerator denominator : Nat} (positive : 0 < denominator) (exponent : Int) :
    denominator * (powerRatio 2 exponent).1 ≤ numerator * (powerRatio 2 exponent).2 ↔
      (2 : ℚ) ^ exponent ≤ numerator / denominator := by
  have below : (0 : ℚ) < (powerRatio 2 exponent).2 := by exact_mod_cast (powerRatio_pos two_pos exponent).2
  have part : (0 : ℚ) < denominator := by exact_mod_cast positive
  rw [← Nat.cast_ofNat (R := ℚ), ← powerRatio_eq, div_le_div_iff₀ below part, mul_comm denominator]
  exact_mod_cast Iff.rfl

/-- The leading bit of a quotient lies where two powers of two that follow each other enclose it. -/
theorem floorLog2_spec {numerator denominator : Nat} (some : 0 < numerator) (positive : 0 < denominator) :
    (2 : ℚ) ^ floorLog2 numerator denominator ≤ numerator / denominator ∧
      (numerator / denominator : ℚ) < 2 ^ (floorLog2 numerator denominator + 1) := by
  have below : (0 : ℚ) < denominator := by exact_mod_cast positive
  have first : (2 : ℚ) ^ (Nat.log2 numerator : Int) ≤ numerator := by
    exact_mod_cast Nat.log2_self_le some.ne'
  have second : (numerator : ℚ) < 2 ^ ((Nat.log2 numerator : Int) + 1) := by
    exact_mod_cast Nat.lt_log2_self
  have third : (2 : ℚ) ^ (Nat.log2 denominator : Int) ≤ denominator := by
    exact_mod_cast Nat.log2_self_le positive.ne'
  have fourth : (denominator : ℚ) < 2 ^ ((Nat.log2 denominator : Int) + 1) := by
    exact_mod_cast Nat.lt_log2_self
  unfold floorLog2
  generalize (Nat.log2 numerator : Int) = above at *
  generalize (Nat.log2 denominator : Int) = under at *
  have upper : (numerator / denominator : ℚ) < 2 ^ (above - under + 1) := by
    rw [div_lt_iff₀ below]
    calc (numerator : ℚ) < 2 ^ (above + 1) := second
      _ = 2 ^ (above - under + 1) * 2 ^ under := by rw [← zpow_add₀ two_ne_zero]; congr 1; ring
      _ ≤ 2 ^ (above - under + 1) * denominator := by gcongr
  have lower : (2 : ℚ) ^ (above - under - 1) ≤ numerator / denominator := by
    rw [le_div_iff₀ below]
    calc (2 : ℚ) ^ (above - under - 1) * denominator
      _ ≤ 2 ^ (above - under - 1) * 2 ^ (under + 1) := by gcongr
      _ = 2 ^ above := by rw [← zpow_add₀ two_ne_zero]; congr 1; ring
      _ ≤ numerator := first
  dsimp only
  split
  next reached => exact ⟨(powerRatio_le_iff positive _).mp reached, upper⟩
  next missed =>
    rw [powerRatio_le_iff positive, not_le] at missed
    exact ⟨lower, by rwa [sub_add_cancel]⟩

namespace Double

/-! ## Words -/

theorem isFinite_ofMagnitude (negative : Bool) {magnitude : Nat}
    (small : magnitude < specialExponent * fractionCount) :
    (ofMagnitude negative magnitude).isFinite = true := by
  simp only [isFinite, exponentField, ofMagnitude, specialExponent, fractionCount, exponentCount, signWeight,
    UInt64.toNat_ofNat', bne_iff_ne] at small ⊢
  cases negative <;> simp only [↓reduceIte, Bool.false_eq_true] <;> omega

theorem isFinite_infinity (negative : Bool) : (infinity negative).isFinite = false := by
  cases negative <;> decide

private theorem isFinite_capped (negative : Bool) (magnitude : Nat) :
    (if magnitude < specialExponent * fractionCount then ofMagnitude negative magnitude
      else infinity negative).isFinite = true ↔ magnitude < specialExponent * fractionCount := by
  split
  next small => exact iff_of_true (isFinite_ofMagnitude negative small) small
  next large => simp [isFinite_infinity, large]

/-! ## The bound -/

/-- From here on a magnitude is closer to two to the power of 1024 than to the largest double. -/
def overflowBound : ℚ := (2 ^ 53 - 1 / 2) * 2 ^ (971 : Int)

theorem overflowBound_between :
    (2 : ℚ) ^ (1023 : Int) ≤ overflowBound ∧ overflowBound ≤ 2 ^ (1024 : Int) := by
  rw [overflowBound, show (1023 : Int) = 52 + 971 from rfl, show (1024 : Int) = 53 + 971 from rfl,
    zpow_add₀ two_ne_zero, zpow_add₀ two_ne_zero]
  have scale : (0 : ℚ) ≤ 2 ^ (971 : Int) := by positivity
  exact ⟨mul_le_mul_of_nonneg_right (by norm_num) scale, mul_le_mul_of_nonneg_right (by norm_num) scale⟩

theorem overflowBound_pos : 0 < overflowBound := (by positivity : (0 : ℚ) < 2 ^ (1023 : Int)).trans_le
  overflowBound_between.1

/-- The significand of a rounded quotient, in units of a power of two. -/
theorem significand_bounds (numerator : Nat) {denominator : Nat} (positive : 0 < denominator) (scale : Int)
    (bound : Nat) :
    let significand :=
      roundHalfEven (numerator * (powerRatio 2 scale).2) (denominator * (powerRatio 2 scale).1)
    ((numerator / denominator : ℚ) ≤ bound * 2 ^ scale → significand ≤ bound) ∧
      (bound * 2 ^ scale ≤ (numerator / denominator : ℚ) → bound ≤ significand) ∧
      (bound % 2 = 0 →
        (significand < bound ↔ (numerator / denominator : ℚ) < (bound - 1 / 2) * 2 ^ scale)) := by
  obtain ⟨above, below⟩ := powerRatio_pos two_pos scale
  have power : (2 : ℚ) ^ scale = (powerRatio 2 scale).1 / (powerRatio 2 scale).2 := by
    rw [powerRatio_eq, Nat.cast_ofNat]
  rw [power]
  generalize (powerRatio 2 scale).1 = top at *
  generalize (powerRatio 2 scale).2 = bottom at *
  have part : (0 : ℚ) < denominator := by exact_mod_cast positive
  have under : (0 : ℚ) < bottom := by exact_mod_cast below
  have product : 0 < denominator * top := Nat.mul_pos positive above
  have le_iff (factor : ℚ) : (numerator / denominator : ℚ) ≤ factor * (top / bottom) ↔
      numerator * bottom ≤ factor * (denominator * top) := by
    rw [← mul_div_assoc, div_le_div_iff₀ part under, mul_assoc factor, mul_comm (top : ℚ)]
  have ge_iff (factor : ℚ) : factor * (top / bottom) ≤ (numerator / denominator : ℚ) ↔
      factor * (denominator * top) ≤ numerator * bottom := by
    rw [← mul_div_assoc, div_le_div_iff₀ under part, mul_assoc factor, mul_comm (top : ℚ)]
  refine ⟨fun small => roundHalfEven_le product ?_, fun large => le_roundHalfEven product ?_, fun even => ?_⟩
  · exact_mod_cast (le_iff bound).mp small
  · exact_mod_cast (ge_iff bound).mp large
  · rw [roundHalfEven_lt_iff product even, ← not_le, ← not_le, ge_iff, not_iff_not]
    constructor
    · intro half
      have half : (2 * bound * (denominator * top) : ℚ) ≤ 2 * (numerator * bottom) + denominator * top := by
        exact_mod_cast half
      linarith
    · intro half
      have half : (2 * bound * (denominator * top) : ℚ) ≤ 2 * (numerator * bottom) + denominator * top := by
        linarith
      exact_mod_cast half

private theorem ofRatio_isFinite_iff (negative : Bool) {numerator denominator : Nat} (positive : 0 < denominator) :
    (ofRatio negative numerator denominator).isFinite = true ↔
      (numerator / denominator : ℚ) < overflowBound := by
  unfold ofRatio
  split
  next none =>
    subst none
    have finite : (ofMagnitude negative 0).isFinite = true := isFinite_ofMagnitude negative (by decide)
    refine iff_of_true finite ?_
    rw [Nat.cast_zero, zero_div]
    exact overflowBound_pos
  next some =>
    obtain ⟨lower, upper⟩ := floorLog2_spec (Nat.pos_of_ne_zero some) positive
    generalize floorLog2 numerator denominator = leading at *
    have scaled : leading - 52 ≤ max (leading - 52) (-1074) := le_max_left ..
    have known : max (leading - 52) (-1074) = leading - 52 ∨ leading < -1022 := by omega
    dsimp only
    rw [isFinite_capped]
    rcases lt_trichotomy leading 1023 with small | exact | large
    · -- Below the last power of two there is room even if the significand is rounded up to the next one.
      have bits : 2 ^ (leading + 1) ≤ (2 ^ 53 : Nat) * (2 : ℚ) ^ max (leading - 52) (-1074) := by
        rw [Nat.cast_pow, Nat.cast_ofNat, ← zpow_natCast, ← zpow_add₀ two_ne_zero]
        exact zpow_le_zpow_right₀ one_le_two (by omega)
      have rounded := (significand_bounds numerator positive (max (leading - 52) (-1074)) (2 ^ 53)).1
        (upper.le.trans bits)
      refine iff_of_true ?_ (upper.trans_le ?_)
      · simp only [fractionCount, specialExponent]
        omega
      · calc (2 : ℚ) ^ (leading + 1) ≤ 2 ^ (1023 : Int) := zpow_le_zpow_right₀ one_le_two (by omega)
          _ ≤ overflowBound := overflowBound_between.1
    · -- Here all depends on whether the significand is rounded up to the next power of two.
      have scale : max (leading - 52) (-1074) = 971 := by omega
      have rounded := (significand_bounds numerator positive 971 (2 ^ 53)).2.2 rfl
      rw [Nat.cast_pow, Nat.cast_ofNat] at rounded
      rw [scale, overflowBound, ← rounded]
      simp only [fractionCount, specialExponent]
      omega
    · have bits : (2 ^ 52 : Nat) * (2 : ℚ) ^ max (leading - 52) (-1074) ≤ 2 ^ leading := by
        rw [Nat.cast_pow, Nat.cast_ofNat, ← zpow_natCast, ← zpow_add₀ two_ne_zero]
        exact zpow_le_zpow_right₀ one_le_two (by omega)
      have rounded := (significand_bounds numerator positive (max (leading - 52) (-1074)) (2 ^ 52)).2.1
        (bits.trans lower)
      refine iff_of_false ?_ (not_lt.mpr (le_trans ?_ lower))
      · simp only [fractionCount, specialExponent]
        omega
      · calc overflowBound ≤ (2 : ℚ) ^ (1024 : Int) := overflowBound_between.2
          _ ≤ 2 ^ leading := zpow_le_zpow_right₀ one_le_two (by omega)

/-! ## Decimal numbers -/

private theorem digits_bounds {digits : Nat} (some : digits ≠ 0) :
    (10 : ℚ) ^ (((Nat.toDigits 10 digits).length : Int) - 1) ≤ digits ∧
      (digits : ℚ) < 10 ^ ((Nat.toDigits 10 digits).length : Int) := by
  have long : 0 < (Nat.toDigits 10 digits).length := Nat.length_toDigits_pos
  constructor
  · obtain ⟨length, same⟩ := Nat.exists_eq_add_one.mpr long
    rw [same, Nat.cast_add_one, add_sub_cancel_right, zpow_natCast]
    norm_cast
    by_contra short
    cases length with
    | zero => omega
    | succ length =>
      have fewer := (Nat.length_toDigits_le_iff (by decide) length.succ_pos).mpr (Nat.lt_of_not_le short)
      omega
  · rw [zpow_natCast]
    exact_mod_cast (Nat.length_toDigits_le_iff (by decide) long).mp le_rfl

/-- A decimal number is read as a finite double exactly if it is closer to one than to an infinity. -/
theorem ofDecimal_isFinite_iff (negative : Bool) (digits : Nat) (exponent : Int) :
    (ofDecimal negative digits exponent).isFinite = true ↔ (digits * 10 ^ exponent : ℚ) < overflowBound := by
  unfold ofDecimal
  have small : (ofMagnitude negative 0).isFinite = true := isFinite_ofMagnitude negative (by decide)
  split
  next none =>
    refine iff_of_true small ?_
    rw [none, Nat.cast_zero, zero_mul]
    exact overflowBound_pos
  next some =>
    obtain ⟨lower, upper⟩ := digits_bounds some
    generalize ((Nat.toDigits 10 digits).length : Int) = length at *
    dsimp only
    have reach : decimalReach = 400 := rfl
    by_cases far : decimalReach < length + exponent
    · rw [if_pos far]
      refine iff_of_false (by simp [isFinite_infinity]) (not_lt.mpr ?_)
      calc overflowBound ≤ 2 ^ (1024 : Int) := overflowBound_between.2
        _ ≤ 2 ^ (1200 : Int) := zpow_le_zpow_right₀ one_le_two (by decide)
        _ = (2 ^ (3 : Int)) ^ (400 : Int) := by rw [← zpow_mul]; rfl
        _ ≤ 10 ^ (400 : Int) := zpow_le_zpow_left₀ (by decide) (by positivity) (by norm_num)
        _ ≤ 10 ^ (length - 1 + exponent) := zpow_le_zpow_right₀ (by norm_num) (by omega)
        _ = 10 ^ (length - 1) * 10 ^ exponent := zpow_add₀ (by norm_num) ..
        _ ≤ digits * 10 ^ exponent := by gcongr
    · rw [if_neg far]
      by_cases deep : length + exponent < -decimalReach
      · rw [if_pos deep]
        refine iff_of_true small ?_
        calc (digits * 10 ^ exponent : ℚ) < 10 ^ length * 10 ^ exponent := by gcongr
          _ = 10 ^ (length + exponent) := (zpow_add₀ (by norm_num) ..).symm
          _ ≤ 10 ^ (0 : Int) := zpow_le_zpow_right₀ (by norm_num) (by omega)
          _ = 2 ^ (0 : Int) := by rw [zpow_zero, zpow_zero]
          _ ≤ 2 ^ (1023 : Int) := zpow_le_zpow_right₀ one_le_two (by decide)
          _ ≤ overflowBound := overflowBound_between.1
      · rw [if_neg deep, ofRatio_isFinite_iff negative (powerRatio_pos (by decide) exponent).2, Nat.cast_mul,
          mul_div_assoc, powerRatio_eq, Nat.cast_ofNat]

private theorem ofRatio_cases (negative : Bool) (numerator denominator : Nat) :
    (ofRatio negative numerator denominator).isFinite = true ∨
      ofRatio negative numerator denominator = infinity negative := by
  unfold ofRatio
  split
  next => exact .inl (isFinite_ofMagnitude negative (by decide))
  next =>
    dsimp only
    split
    next small => exact .inl (isFinite_ofMagnitude negative small)
    next => exact .inr rfl

private theorem ofDecimal_cases (negative : Bool) (digits : Nat) (exponent : Int) :
    (ofDecimal negative digits exponent).isFinite = true ∨
      ofDecimal negative digits exponent = infinity negative := by
  unfold ofDecimal
  split
  next => exact .inl (isFinite_ofMagnitude negative (by decide))
  next =>
    dsimp only
    split
    next => exact .inr rfl
    next =>
      split
      next => exact .inl (isFinite_ofMagnitude negative (by decide))
      next => exact ofRatio_cases ..

theorem ofDecimal_of_overflow {negative : Bool} {digits : Nat} {exponent : Int}
    (large : overflowBound ≤ (digits * 10 ^ exponent : ℚ)) :
    ofDecimal negative digits exponent = infinity negative :=
  (ofDecimal_cases negative digits exponent).resolve_left
    (mt (ofDecimal_isFinite_iff negative digits exponent).mp (not_lt.mpr large))

end Double

end QueryGate
