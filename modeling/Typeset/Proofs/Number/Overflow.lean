import Typeset.Proofs.Number.Rounding

/-!
# Integers beyond the range of doubles

The largest finite double is `2 ^ 1024 - 2 ^ 971`.  Main statement: integers have no double
from halfway to `2 ^ 1024` on, where the tie goes to the even mantissa, which is one bit
too long.
-/

namespace Typeset

open Number

/-- The least natural number that overflows. -/
def Number.overflowBound : Nat :=
  2 ^ 1024 - 2 ^ 970

/-- A quotient with an odd floor is rounded up from the middle on. -/
theorem Number.succ_le_roundQuotient_iff {half num floor : Nat} (positive : 0 < half)
    (odd : floor % 2 = 1) :
    floor + 1 ≤ roundQuotient num (2 * half) ↔ (2 * floor + 1) * half ≤ num := by
  have split := Nat.div_add_mod num (2 * half)
  have small := Nat.mod_lt num (Nat.mul_pos Nat.two_pos positive)
  simp only [roundQuotient]
  generalize num / (2 * half) = quotient at *
  generalize num % (2 * half) = rest at *
  have threshold : (2 * floor + 1) * half = 2 * half * floor + half := by ring
  rw [threshold, ← split]
  rcases lt_trichotomy quotient floor with below | rfl | above
  · have step : 2 * half * (quotient + 1) ≤ 2 * half * floor := Nat.mul_le_mul_left _ below
    rw [Nat.mul_succ] at step
    constructor
    · intro rounded
      split_ifs at rounded <;> omega
    · intro beyond
      omega
  · rw [if_neg (show ¬quotient % 2 = 0 by omega), Nat.add_le_add_iff_left]
    constructor
    · intro rounded
      split_ifs at rounded <;> omega
    · intro beyond
      split_ifs <;> omega
  · have step : 2 * half * (floor + 1) ≤ 2 * half * quotient := Nat.mul_le_mul_left _ above
    rw [Nat.mul_succ] at step
    constructor
    · intro rounded
      omega
    · intro beyond
      split_ifs <;> omega

theorem Number.wholePower_natCast (base exponent : Nat) :
    wholePower base exponent = base ^ exponent :=
  rfl

namespace Binary64

theorem scaleExponent_one {n : Nat} (positive : 0 < n) :
    scaleExponent n 1 = (n.log2 : Int) - 52 := by
  rw [scaleExponent, leadingExponent_one positive.ne']
  omega

/-- The rounded mantissa of an integer uses all its bits. -/
theorem roundedMantissa_bounds {n : Nat} (positive : 0 < n) :
    leadingBit ≤ roundedMantissa n 1 ∧ roundedMantissa n 1 ≤ 2 * leadingBit := by
  obtain ⟨low, high⟩ := leadingExponent_bounds positive Nat.one_pos
  have leading : leadingExponent n 1 = scaleExponent n 1 + (52 : Nat) := by
    rw [scaleExponent_one positive, leadingExponent_one positive.ne']
    omega
  have power : ∀ k : Nat, (2 : ℚ) ^ (scaleExponent n 1 + k) = 2 ^ k * 2 ^ scaleExponent n 1 :=
    fun k => by rw [zpow_add₀ two_ne_zero, zpow_natCast, mul_comm]
  have unit : (0 : ℚ) < 2 ^ scaleExponent n 1 := by positivity
  rw [leading, power, ← le_div_iff₀ unit] at low
  rw [leading, show scaleExponent n 1 + (52 : Nat) + 1 = scaleExponent n 1 + (53 : Nat) by
    push_cast; ring, power, ← div_lt_iff₀ unit] at high
  have near := @abs_roundQuotient_sub_le (n * wholePower 2 (-scaleExponent n 1))
    (1 * wholePower 2 (scaleExponent n 1)) (Nat.mul_pos Nat.one_pos (wholePower_pos (by decide) _))
  rw [scaled_div_scaled 2 (by decide), ← roundedMantissa] at near
  push_cast at near low high
  obtain ⟨above, below⟩ := abs_le.mp near
  have atLeast : ((leadingBit : Nat) : ℚ) < (roundedMantissa n 1 + 1 : Nat) := by
    push_cast
    linarith
  have atMost : ((roundedMantissa n 1 : Nat) : ℚ) < (2 * leadingBit + 1 : Nat) := by
    push_cast
    linarith
  exact ⟨Nat.lt_succ_iff.mp (by exact_mod_cast atLeast),
    Nat.lt_succ_iff.mp (by exact_mod_cast atMost)⟩

theorem ofParts_eq_infinite_iff {negative : Bool} {mantissa : Nat} {exponent : Int} :
    ofParts negative mantissa exponent = .infinite negative ↔ ¬Canonical mantissa exponent := by
  unfold ofParts
  split <;> simp_all

/-- An integer overflows when its exponent is too large, also after a carry. -/
theorem round_one_eq_infinite_iff {n : Nat} (positive : 0 < n) {negative : Bool} :
    round negative n 1 = .infinite negative ↔
      971 < scaleExponent n 1 ∨
        971 = scaleExponent n 1 ∧ 2 * leadingBit ≤ roundedMantissa n 1 := by
  obtain ⟨atLeast, atMost⟩ := roundedMantissa_bounds positive
  have scale := scaleExponent_one positive
  have nonzero : roundedMantissa n 1 ≠ 0 := (Nat.lt_of_lt_of_le (by decide) atLeast).ne'
  rw [round_eq, if_neg nonzero]
  split_ifs with carry
  · rw [ofParts_eq_infinite_iff]
    unfold Canonical
    omega
  · rw [ofParts_eq_infinite_iff]
    unfold Canonical
    omega

/-- A natural number overflows from the bound on. -/
theorem round_one_eq_infinite_iff_le {n : Nat} {negative : Bool} :
    round negative n 1 = .infinite negative ↔ overflowBound ≤ n := by
  have shift (k : Nat) : 2 ^ (k + 970) = 2 ^ k * 2 ^ 970 := pow_add 2 k 970
  have scaled : wholePower 2 971 = 2 * 2 ^ 970 :=
    (wholePower_natCast 2 (970 + 1)).trans (pow_succ' 2 970)
  have unscaled : wholePower 2 (-971) = 1 := wholePower_neg_natCast 2 971
  have unit : 0 < 2 ^ 970 := by positivity
  rw [overflowBound, show 1024 = 54 + 970 by rfl, shift]
  generalize 2 ^ 970 = half at *
  rcases Nat.eq_zero_or_pos n with rfl | positive
  · rw [round_zero, ofParts_eq_infinite_iff]
    exact iff_of_false (by decide) (by omega)
  · have low := Nat.log2_self_le positive.ne'
    have high := @Nat.lt_log2_self n
    have full : 2 * leadingBit = 2 ^ 53 := rfl
    have threshold : 2 ^ 54 * half - half = (2 * (2 ^ 53 - 1) + 1) * half := by omega
    rw [round_one_eq_infinite_iff positive, scaleExponent_one positive]
    rcases lt_trichotomy n.log2 1023 with below | equal | above
    · have power : 2 ^ (n.log2 + 1) ≤ 2 ^ 53 * half := by
        rw [← shift]
        exact pow_le_pow_right₀ one_le_two (by omega)
      exact iff_of_false (by omega) (by omega)
    · have mantissa : roundedMantissa n 1 = roundQuotient n (2 * half) := by
        have scale : scaleExponent n 1 = 971 := by
          rw [scaleExponent_one positive, equal]
          rfl
        rw [roundedMantissa, scale, scaled, unscaled, Nat.one_mul, Nat.mul_one]
      rw [equal, mantissa, full, threshold, ← succ_le_roundQuotient_iff unit (by decide)]
      omega
    · have power : 2 ^ 54 * half ≤ 2 ^ n.log2 := by
        rw [← shift]
        exact pow_le_pow_right₀ one_le_two (by omega)
      exact iff_of_true (by omega) (by omega)

/-- Rounding gives a finite double or the infinity of the sign. -/
theorem round_cases (negative : Bool) (num den : Nat) :
    (∃ x, round negative num den = .finite x) ∨ round negative num den = .infinite negative := by
  have parts : ∀ mantissa exponent, (∃ x, ofParts negative mantissa exponent = .finite x) ∨
      ofParts negative mantissa exponent = .infinite negative := by
    intro mantissa exponent
    unfold ofParts
    split <;> simp
  rw [round_eq]
  split_ifs <;> exact parts _ _

end Binary64

/-- An integer has no double from the bound on. -/
theorem Number.toBinary64?_int_eq_none_iff {n : Int} :
    (int n).toBinary64? = none ↔ overflowBound ≤ n.natAbs := by
  rw [← @Binary64.round_one_eq_infinite_iff_le _ (n < 0)]
  unfold toBinary64? Binary64.ofInt
  rcases Binary64.round_cases (n < 0) n.natAbs 1 with ⟨x, finite⟩ | infinite
  · simp [finite]
  · simp [infinite]

end Typeset
