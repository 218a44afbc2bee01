import Mathlib.Algebra.Order.Field.Power
import Mathlib.Data.Rat.Cast.Order
import Mathlib.Tactic.FieldSimp
import Mathlib.Tactic.Linarith
import Mathlib.Tactic.NormNum
import Mathlib.Tactic.Positivity
import Mathlib.Tactic.Ring
import Typeset.Proofs.Number.Range
import Typeset.Proofs.Number.Value

/-!
# Rounding to doubles

Rounding a quotient to a double is told from its value alone.  Main statement: a
quotient whose distance from a finite double is less than `2 ^ -54` of it rounds to that
double.
-/

namespace Typeset

namespace Number

/-- The two whole powers that scale a quotient make up the power. -/
theorem wholePower_div_wholePower (base : Nat) (positive : 0 < base) (exponent : Int) :
    (wholePower base exponent : ℚ) / wholePower base (-exponent) = (base : ℚ) ^ exponent := by
  have nonzero : (base : ℚ) ≠ 0 := by positivity
  rcases Int.le_total 0 exponent with upwards | downwards
  · obtain ⟨n, rfl⟩ := Int.eq_ofNat_of_zero_le upwards
    rw [wholePower_neg_natCast]
    simp [wholePower]
  · obtain ⟨n, rfl⟩ := Int.exists_eq_neg_ofNat downwards
    rw [wholePower_neg_natCast, neg_neg]
    simp [wholePower]

/-- Scaling a quotient divides its value by the power. -/
theorem scaled_div_scaled (base : Nat) (positive : 0 < base) (num den : Nat) (exponent : Int) :
    ((num * wholePower base (-exponent) : Nat) : ℚ) / (den * wholePower base exponent : Nat) =
      num / den / (base : ℚ) ^ exponent := by
  rw [← wholePower_div_wholePower base positive exponent]
  push_cast
  rw [div_div_div_eq]

/-- Rounding moves a quotient by half a unit at most. -/
theorem abs_roundQuotient_sub_le {num den : Nat} (positive : 0 < den) :
    |(roundQuotient num den : ℚ) - num / den| ≤ 1 / 2 := by
  have denPositive : (0 : ℚ) < den := by exact_mod_cast positive
  have upwards : (2 * num : ℚ) ≤ (2 * roundQuotient num den + 1) * den := by
    exact_mod_cast two_mul_le_roundQuotient positive
  have downwards : (2 * (roundQuotient num den * den) : ℚ) ≤ 2 * num + den := by
    exact_mod_cast roundQuotient_mul_le positive
  have split : (num : ℚ) = num / den * den := (div_mul_cancel₀ _ denPositive.ne').symm
  rw [split] at upwards downwards
  rw [abs_le]
  constructor <;> nlinarith

/-- A quotient rounds to the natural number that is less than half a unit away. -/
theorem roundQuotient_eq_of_near {num den nearest : Nat} (positive : 0 < den)
    (near : |(num : ℚ) / den - nearest| < 1 / 2) : roundQuotient num den = nearest := by
  have moved := abs_le.mp (@abs_roundQuotient_sub_le num den positive)
  have nearBy := abs_lt.mp near
  have below : (roundQuotient num den : ℚ) < nearest + 1 := by linarith
  have above : (nearest : ℚ) < roundQuotient num den + 1 := by linarith
  have belowNat : roundQuotient num den < nearest + 1 := by exact_mod_cast below
  have aboveNat : nearest < roundQuotient num den + 1 := by exact_mod_cast above
  omega

/-- Rounding depends on the value of a quotient alone. -/
theorem roundQuotient_congr {num den otherNum otherDen : Nat} (positive : 0 < den)
    (otherPositive : 0 < otherDen) (equal : (num : ℚ) / den = otherNum / otherDen) :
    roundQuotient num den = roundQuotient otherNum otherDen := by
  have denNonzero : (den : ℚ) ≠ 0 := by positivity
  have otherNonzero : (otherDen : ℚ) ≠ 0 := by positivity
  have crossed : otherDen * num = den * otherNum := by
    have product := (div_eq_div_iff denNonzero otherNonzero).mp equal
    rw [mul_comm (num : ℚ), mul_comm (otherNum : ℚ)] at product
    exact_mod_cast product
  have scale : ∀ {factor num den : Nat}, 0 < factor →
      roundQuotient (factor * num) (factor * den) = roundQuotient num den := by
    intro factor num den factorPositive
    have twice : 2 * (factor * (num % den)) = factor * (2 * (num % den)) := by ring
    simp only [roundQuotient, Nat.mul_div_mul_left _ _ factorPositive, Nat.mul_mod_mul_left, twice,
      Nat.mul_lt_mul_left factorPositive]
  rw [← scale otherPositive, crossed, mul_comm otherDen, scale positive]

end Number

namespace Binary64

open Number

theorem lt_of_two_zpow_lt {low high : Int} (less : (2 : ℚ) ^ low < 2 ^ high) : low < high :=
  (zpow_lt_zpow_iff_right₀ one_lt_two).mp less

/-! ## The exponent of the leading bit -/

/-- The leading exponent of a quotient is that of the power of two just below it. -/
theorem leadingExponent_bounds {num den : Nat} (numPositive : 0 < num) (denPositive : 0 < den) :
    (2 : ℚ) ^ leadingExponent num den ≤ num / den ∧
      (num / den : ℚ) < 2 ^ (leadingExponent num den + 1) := by
  have two : (2 : ℚ) ≠ 0 := by norm_num
  have denPos : (0 : ℚ) < den := by exact_mod_cast denPositive
  have numLow : (2 : ℚ) ^ num.log2 ≤ num := by exact_mod_cast Nat.log2_self_le numPositive.ne'
  have numHigh : (num : ℚ) < 2 ^ (num.log2 + 1) := by exact_mod_cast Nat.lt_log2_self
  have denLow : (2 : ℚ) ^ den.log2 ≤ den := by exact_mod_cast Nat.log2_self_le denPositive.ne'
  have denHigh : (den : ℚ) < 2 ^ (den.log2 + 1) := by exact_mod_cast Nat.lt_log2_self
  have low : (2 : ℚ) ^ ((num.log2 : Int) - den.log2 - 1) ≤ num / den := by
    rw [sub_sub, zpow_sub₀ two]
    exact div_le_div₀ (by positivity) numLow denPos (by exact_mod_cast denHigh.le)
  have high : (num / den : ℚ) < 2 ^ ((num.log2 : Int) - den.log2 + 1) := by
    rw [sub_add_eq_add_sub, zpow_sub₀ two]
    exact div_lt_div₀ (by exact_mod_cast numHigh) denLow (by positivity) (by positivity)
  have guessed (guess : Int) : num * wholePower 2 (-guess) < den * wholePower 2 guess ↔
      (num / den : ℚ) < 2 ^ guess := by
    have unit : (0 : ℚ) < wholePower 2 (-guess) := by
      exact_mod_cast wholePower_pos (by decide) (-guess)
    have power := wholePower_div_wholePower 2 (by decide) guess
    rw [Nat.cast_ofNat] at power
    rw [← power, div_lt_div_iff₀ denPos unit, mul_comm (wholePower 2 guess : ℚ)]
    exact_mod_cast Iff.rfl
  simp only [leadingExponent, guessed]
  split
  · rename_i below
    exact ⟨low, by simpa using below⟩
  · rename_i above
    exact ⟨not_lt.mp above, high⟩

theorem leadingExponent_eq {num den : Nat} (positive : 0 < den) {exponent : Int}
    (low : (2 : ℚ) ^ exponent ≤ num / den) (high : (num / den : ℚ) < 2 ^ (exponent + 1)) :
    leadingExponent num den = exponent := by
  have numPositive : 0 < num := by
    rcases Nat.eq_zero_or_pos num with rfl | positive
    · have power : (0 : ℚ) < 2 ^ exponent := by positivity
      rw [Nat.cast_zero, zero_div] at low
      linarith
    · exact positive
  obtain ⟨leadingLow, leadingHigh⟩ := leadingExponent_bounds numPositive positive
  have below := lt_of_two_zpow_lt (low.trans_lt leadingHigh)
  have above := lt_of_two_zpow_lt (leadingLow.trans_lt high)
  omega

/-! ## Rounding a quotient -/

/-- The exponent that a quotient is scaled by when it is rounded. -/
def scaleExponent (num den : Nat) : Int :=
  max (-1074) (leadingExponent num den - 52)

/-- The mantissa that a quotient is rounded to. -/
def roundedMantissa (num den : Nat) : Nat :=
  roundQuotient (num * wholePower 2 (-scaleExponent num den))
    (den * wholePower 2 (scaleExponent num den))

theorem round_eq (negative : Bool) (num den : Nat) :
    round negative num den =
      if roundedMantissa num den = 0 then ofParts negative 0 (-1074)
      else if roundedMantissa num den = 2 * leadingBit then
        ofParts negative leadingBit (scaleExponent num den + 1)
      else ofParts negative (roundedMantissa num den) (scaleExponent num den) :=
  rfl

theorem roundedMantissa_eq_of_near {num den nearest : Nat} (positive : 0 < den)
    (near : |(num / den : ℚ) / 2 ^ scaleExponent num den - nearest| < 1 / 2) :
    roundedMantissa num den = nearest := by
  apply roundQuotient_eq_of_near (Nat.mul_pos positive (wholePower_pos (by decide) _))
  rw [scaled_div_scaled 2 (by decide)]
  exact near

theorem round_zero (negative : Bool) (den : Nat) :
    round negative 0 den = ofParts negative 0 (-1074) := by
  have zero : roundedMantissa 0 den = 0 := by
    simp [roundedMantissa, roundQuotient]
  rw [round_eq, if_pos zero]

/-- Rounding depends on the sign and the value of a quotient alone. -/
theorem round_congr {num den otherNum otherDen : Nat} (positive : 0 < den)
    (otherPositive : 0 < otherDen) (equal : (num : ℚ) / den = otherNum / otherDen)
    (negative : Bool) : round negative num den = round negative otherNum otherDen := by
  rcases Nat.eq_zero_or_pos num with rfl | numPositive
  · have otherZero : otherNum = 0 := by
      rw [Nat.cast_zero, zero_div, eq_comm, div_eq_zero_iff] at equal
      simpa [otherPositive.ne'] using equal
    rw [otherZero, round_zero, round_zero]
  · obtain ⟨low, high⟩ := leadingExponent_bounds numPositive positive
    rw [equal] at low high
    have scales : scaleExponent num den = scaleExponent otherNum otherDen := by
      rw [scaleExponent, scaleExponent, leadingExponent_eq otherPositive low high]
    have mantissas : roundedMantissa num den = roundedMantissa otherNum otherDen := by
      unfold roundedMantissa
      apply roundQuotient_congr (Nat.mul_pos positive (wholePower_pos (by decide) _))
        (Nat.mul_pos otherPositive (wholePower_pos (by decide) _))
      rw [scaled_div_scaled 2 (by decide), scaled_div_scaled 2 (by decide), equal, scales]
    rw [round_eq, round_eq, scales, mantissas]

/-- Quotients below half the least double round to zero. -/
theorem round_of_lt {num den : Nat} (positive : 0 < den)
    (small : (num / den : ℚ) < 2 ^ (-1075 : Int)) (negative : Bool) :
    round negative num den = ofParts negative 0 (-1074) := by
  rcases Nat.eq_zero_or_pos num with rfl | numPositive
  · exact round_zero negative den
  · have leading : leadingExponent num den < -1075 := by
      have low := (leadingExponent_bounds numPositive positive).1
      exact (zpow_lt_zpow_iff_right₀ (by norm_num : (1 : ℚ) < 2)).mp (low.trans_lt small)
    have scale : scaleExponent num den = -1074 := by
      rw [scaleExponent]
      omega
    have zero : roundedMantissa num den = 0 := by
      apply roundedMantissa_eq_of_near positive
      have half : (2 : ℚ) ^ (-1075 : Int) = 1 / 2 * 2 ^ (-1074 : Int) := by
        rw [show (-1075 : Int) = -1074 - 1 by rfl, zpow_sub_one₀ two_ne_zero, mul_comm]
        norm_num
      have nonnegative : (0 : ℚ) ≤ num / den / 2 ^ (-1074 : Int) := by positivity
      rw [scale, Nat.cast_zero, sub_zero, abs_of_nonneg nonnegative,
        div_lt_iff₀ (by positivity), ← half]
      exact small
    rw [round_eq, if_pos zero]

/-! ## Rounding to a given double -/

/-- The parts of a finite double give that double. -/
theorem ofParts_of_canonical {mantissa : Nat} {exponent : Int}
    (canonical : Canonical mantissa exponent) (negative : Bool) :
    ofParts negative mantissa exponent = .finite ⟨negative, mantissa, exponent, canonical⟩ :=
  dif_pos canonical

/-- The parts of zero give the zero of that sign. -/
theorem ofParts_zero {x : Finite} (zero : x.mantissa = 0) (negative : Bool) :
    ofParts negative 0 (-1074) = .finite ⟨negative, x.mantissa, x.exponent, x.canonical⟩ := by
  have least : x.exponent = -1074 := by
    have full := x.canonical.2.2.2
    rw [zero] at full
    exact full.resolve_right (by decide)
  obtain ⟨sign, mantissa, exponent, canonical⟩ := x
  subst zero least
  rfl

/-- Less than a part in `2 ^ 54` lies between a quotient and a double that is not zero. -/
structure Near (mantissa : Nat) (exponent : Int) (num den : Nat) : Prop where
  canonical : Canonical mantissa exponent
  nonzero : mantissa ≠ 0
  positive : 0 < den
  above : -(mantissa * 2 ^ exponent / 2 ^ 54) < (num / den : ℚ) - mantissa * 2 ^ exponent
  below : (num / den : ℚ) - mantissa * 2 ^ exponent < mantissa * 2 ^ exponent / 2 ^ 54

theorem two_zpow_add_natCast (exponent : Int) (k : Nat) :
    (2 : ℚ) ^ (exponent + k) = 2 ^ k * 2 ^ exponent := by
  rw [zpow_add₀ two_ne_zero, zpow_natCast, mul_comm]

section Near

variable {mantissa : Nat} {exponent : Int} {num den : Nat} (near : Near mantissa exponent num den)

include near

theorem Near.num_pos : 0 < num := by
  have above := near.above
  have nonnegative : (0 : ℚ) ≤ mantissa * 2 ^ exponent := by positivity
  rcases Nat.eq_zero_or_pos num with rfl | numPositive
  · rw [Nat.cast_zero, zero_div] at above
    linarith
  · exact numPositive

/-- A mantissa has at most 53 bits. -/
theorem Near.next_le : ((mantissa : ℚ) + 1) * 2 ^ exponent ≤ 2 ^ 53 * 2 ^ exponent := by
  have short : (mantissa : ℚ) + 1 ≤ 2 ^ 53 := by exact_mod_cast near.canonical.1
  exact mul_le_mul_of_nonneg_right short (by positivity)

theorem Near.lt_two_zpow : (num / den : ℚ) < 2 ^ (exponent + (53 : Nat)) := by
  have unit : (0 : ℚ) < 2 ^ exponent := by positivity
  have next := near.next_le
  have below := near.below
  rw [two_zpow_add_natCast]
  linarith

/-- The quotient has its leading bit where the mantissa has it, or is below the normal range. -/
theorem Near.round_of_full
    (full : exponent = -1074 ∨ (2 : ℚ) ^ (exponent + (52 : Nat)) ≤ num / den) (negative : Bool) :
    round negative num den = .finite ⟨negative, mantissa, exponent, near.canonical⟩ := by
  have unit : (0 : ℚ) < 2 ^ exponent := by positivity
  have least := near.canonical.2.1
  have next := near.next_le
  have above := near.above
  have below := near.below
  obtain ⟨low, high⟩ := leadingExponent_bounds near.num_pos near.positive
  have scale : scaleExponent num den = exponent := by
    have upper := lt_of_two_zpow_lt (low.trans_lt near.lt_two_zpow)
    rcases full with rfl | full
    · rw [scaleExponent]
      omega
    · have lower := lt_of_two_zpow_lt (full.trans_lt high)
      rw [scaleExponent]
      omega
  have rounded : roundedMantissa num den = mantissa := by
    apply roundedMantissa_eq_of_near near.positive
    rw [scale, abs_lt, lt_sub_iff_add_lt, sub_lt_iff_lt_add, lt_div_iff₀ unit, div_lt_iff₀ unit]
    constructor <;> linarith
  have notFull : mantissa ≠ 2 * leadingBit := by
    have := near.canonical.1
    simp only [leadingBit] at this ⊢
    omega
  rw [round_eq, rounded, scale, if_neg near.nonzero, if_neg notFull,
    ofParts_of_canonical near.canonical]

/-- The quotient lies below a power of two, where doubles are twice as dense, and the double is
that power. -/
theorem Near.round_of_dense (notLeast : exponent ≠ -1074)
    (notFull : (num / den : ℚ) < 2 ^ (exponent + (52 : Nat))) (negative : Bool) :
    round negative num den = .finite ⟨negative, mantissa, exponent, near.canonical⟩ := by
  have numPositive := near.num_pos
  obtain ⟨canonical, -, positive, above, below⟩ := near
  have unit : (0 : ℚ) < 2 ^ exponent := by positivity
  have least := canonical.2.1
  have leading : leadingBit ≤ mantissa := canonical.2.2.2.resolve_left notLeast
  obtain ⟨low, high⟩ := leadingExponent_bounds numPositive positive
  have dense : (num / den : ℚ) < 2 ^ 52 * 2 ^ exponent :=
    notFull.trans_eq (two_zpow_add_natCast exponent 52)
  have exact : mantissa = leadingBit := by
    by_contra different
    have more : (2 : ℚ) ^ 52 + 1 ≤ mantissa := by
      exact_mod_cast (by omega : leadingBit + 1 ≤ mantissa)
    have moreValue := mul_le_mul_of_nonneg_right more unit.le
    linarith
  subst exact
  have half : (2 : ℚ) ^ (exponent - 1) = 2 ^ exponent / 2 := by
    rw [zpow_sub_one₀ two_ne_zero, div_eq_mul_inv]
  have value : ((leadingBit : Nat) : ℚ) * 2 ^ exponent = 2 ^ 52 * 2 ^ exponent := by norm_num
  rw [value] at above below
  have scale : scaleExponent num den = exponent - 1 := by
    have upper : leadingExponent num den < exponent + (52 : Nat) :=
      lt_of_two_zpow_lt (low.trans_lt notFull)
    have lower : exponent + (51 : Nat) < leadingExponent num den + 1 :=
      lt_of_two_zpow_lt (by rw [two_zpow_add_natCast]; linarith)
    rw [scaleExponent]
    omega
  have rounded : roundedMantissa num den = 2 * leadingBit := by
    apply roundedMantissa_eq_of_near positive
    have double : ((2 * leadingBit : Nat) : ℚ) = 2 ^ 53 := by norm_num
    rw [scale, half, double, abs_lt, lt_sub_iff_add_lt, sub_lt_iff_lt_add,
      lt_div_iff₀ (by positivity), div_lt_iff₀ (by positivity)]
    constructor <;> linarith
  rw [round_eq, rounded, scale, if_neg (by decide), if_pos rfl, sub_add_cancel,
    ofParts_of_canonical canonical]

end Near

/-- A quotient rounds to a double when less than a part in `2 ^ 54` lies between them. -/
theorem round_of_near {x : Finite} (nonzero : x.mantissa ≠ 0) {num den : Nat}
    (positive : 0 < den)
    (near : |(num / den : ℚ) - x.mantissa * 2 ^ x.exponent| * 2 ^ 54 <
      x.mantissa * 2 ^ x.exponent) (negative : Bool) :
    round negative num den = .finite ⟨negative, x.mantissa, x.exponent, x.canonical⟩ := by
  obtain ⟨above, below⟩ := abs_lt.mp ((lt_div_iff₀ (by positivity)).mpr near)
  have isNear : Near x.mantissa x.exponent num den :=
    ⟨x.canonical, nonzero, positive, above, below⟩
  by_cases full : x.exponent = -1074 ∨ (2 : ℚ) ^ (x.exponent + (52 : Nat)) ≤ num / den
  · exact isNear.round_of_full full negative
  · obtain ⟨notLeast, notFull⟩ := not_or.mp full
    exact isNear.round_of_dense notLeast (not_le.mp notFull) negative

end Binary64

end Typeset
