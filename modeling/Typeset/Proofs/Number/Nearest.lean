import Typeset.Proofs.Number.Overflow
import Typeset.Proofs.Number.CssText

/-!
# The nearest double

A number between doubles is rounded to the nearest one, and halfway between two of them to the
one whose mantissa is even.  Numbers overflow from halfway between the largest double and
`2 ^ 1024` on.  Main statement: rounding a quotient obeys this rule, which says nothing of how
the quotient is scaled.

Doubles are compared on the grid of the exponent that the quotient is scaled by.  Those with the
same exponent or a larger one lie on that grid; all others lie below the least full mantissa of
the grid, and the quotient does not.
-/

namespace Typeset

namespace Number

/-! ## The nearest natural number -/

section Quotient

variable {num den : Nat} (positive : 0 < den)

include positive

/-- From halfway a quotient is rounded to an even number. -/
theorem roundQuotient_mod_two_of_tie
    (tie : |(num : ℚ) / den - roundQuotient num den| = 1 / 2) : roundQuotient num den % 2 = 0 := by
  have denNonzero : (den : ℚ) ≠ 0 := by positivity
  have split := Nat.div_add_mod num den
  have small := Nat.mod_lt num positive
  have halfway : 2 * num = 2 * (den * roundQuotient num den) + den ∨
      2 * num + den = 2 * (den * roundQuotient num den) := by
    rcases (abs_eq (by norm_num)).mp tie with above | below
    · left
      rw [sub_eq_iff_eq_add, div_eq_iff denNonzero] at above
      have doubled : (2 * num : ℚ) = 2 * (den * roundQuotient num den) + den := by
        rw [above]
        ring
      exact_mod_cast doubled
    · right
      rw [sub_eq_iff_eq_add, div_eq_iff denNonzero] at below
      have doubled : (2 * num + den : ℚ) = 2 * (den * roundQuotient num den) := by
        rw [below]
        ring
      exact_mod_cast doubled
  have next : den * (num / den + 1) = den * (num / den) + den := Nat.mul_succ _ _
  simp only [roundQuotient] at halfway ⊢
  split_ifs at halfway ⊢ <;> omega

/-- All other natural numbers are half a unit or more away from a quotient. -/
theorem half_le_abs_sub {k : Nat} (different : k ≠ roundQuotient num den) :
    1 / 2 ≤ |(num : ℚ) / den - k| := by
  have near := @abs_roundQuotient_sub_le num den positive
  have apart : (1 : ℚ) ≤ |(k : ℚ) - roundQuotient num den| := by
    have whole : (1 : Int) ≤ |(k : Int) - roundQuotient num den| :=
      Int.one_le_abs (sub_ne_zero.mpr (by exact_mod_cast different))
    exact_mod_cast whole
  have triangle := abs_sub_le (k : ℚ) (num / den) (roundQuotient num den)
  rw [abs_sub_comm (roundQuotient num den : ℚ)] at near
  rw [abs_sub_comm (k : ℚ) (num / den)] at triangle
  linarith

/-- No natural number is nearer to a quotient than the one it is rounded to. -/
theorem abs_sub_roundQuotient_le (k : Nat) :
    |(num : ℚ) / den - roundQuotient num den| ≤ |(num : ℚ) / den - k| := by
  rcases eq_or_ne k (roundQuotient num den) with rfl | different
  · exact le_rfl
  · rw [abs_sub_comm (num / den : ℚ) (roundQuotient num den)]
    exact (abs_roundQuotient_sub_le positive).trans (half_le_abs_sub positive different)

/-- Where another natural number is as near, a quotient is rounded to an even one. -/
theorem roundQuotient_mod_two_of_eq {k : Nat} (different : k ≠ roundQuotient num den)
    (equal : |(num : ℚ) / den - k| = |(num : ℚ) / den - roundQuotient num den|) :
    roundQuotient num den % 2 = 0 := by
  apply roundQuotient_mod_two_of_tie positive
  apply le_antisymm
  · rw [abs_sub_comm]
    exact abs_roundQuotient_sub_le positive
  · rw [← equal]
    exact half_le_abs_sub positive different

end Quotient

end Number

namespace Binary64

open Number

/-! ## The grid of a quotient -/

/-- The magnitude of a finite double. -/
def Finite.size (x : Finite) : ℚ :=
  x.mantissa * 2 ^ x.exponent

theorem Finite.size_nonneg (x : Finite) : 0 ≤ x.size := by
  unfold size
  positivity

section Grid

variable {num den : Nat} {negative : Bool} {x : Finite}

/-- The finite double that a quotient is rounded to is the rounded mantissa on the grid of the
quotient, and its own mantissa is even when that one is. -/
theorem size_of_round (rounded : round negative num den = .finite x) :
    x.negative = negative ∧
      x.size = roundedMantissa num den * 2 ^ scaleExponent num den ∧
      (roundedMantissa num den % 2 = 0 → x.mantissa % 2 = 0) := by
  have parts : ∀ {mantissa : Nat} {exponent : Int},
      ofParts negative mantissa exponent = .finite x →
        x.negative = negative ∧ x.mantissa = mantissa ∧ x.exponent = exponent := by
    intro mantissa exponent made
    unfold ofParts at made
    split at made
    · cases made
      exact ⟨rfl, rfl, rfl⟩
    · contradiction
  rw [round_eq] at rounded
  unfold Finite.size
  split_ifs at rounded with zero carry
  · obtain ⟨sign, mantissa, -⟩ := parts rounded
    exact ⟨sign, by rw [mantissa, zero]; simp, fun _ => by rw [mantissa]⟩
  · obtain ⟨sign, mantissa, exponent⟩ := parts rounded
    refine ⟨sign, ?_, fun _ => by rw [mantissa]; decide⟩
    rw [mantissa, exponent, carry, zpow_add_one₀ two_ne_zero, Nat.cast_mul]
    ring
  · obtain ⟨sign, mantissa, exponent⟩ := parts rounded
    exact ⟨sign, by rw [mantissa, exponent], fun even => by rw [mantissa, even]⟩

/-- A quotient has a full mantissa on its grid, unless that is the finest of all. -/
theorem leadingBit_le (numPositive : 0 < num) (denPositive : 0 < den)
    (notLeast : -1074 < scaleExponent num den) :
    (leadingBit * 2 ^ scaleExponent num den : ℚ) ≤ num / den := by
  have bit : ((leadingBit : Nat) : ℚ) = 2 ^ 52 := by norm_num
  have scale : leadingExponent num den = scaleExponent num den + (52 : Nat) := by
    unfold scaleExponent at notLeast ⊢
    omega
  have low := (leadingExponent_bounds numPositive denPositive).1
  rwa [scale, two_zpow_add_natCast, ← bit] at low

/-- A double lies on the grid of a quotient, or it is less than the least full mantissa there
and the quotient is not. -/
theorem on_grid_or_below (numPositive : 0 < num) (denPositive : 0 < den) (y : Finite) :
    (∃ k : Nat, y.size = k * 2 ^ scaleExponent num den) ∨
      y.size < leadingBit * 2 ^ scaleExponent num den ∧
        (leadingBit * 2 ^ scaleExponent num den : ℚ) ≤ num / den := by
  have least := y.canonical.2.1
  rcases le_or_gt (scaleExponent num den) y.exponent with above | below
  · left
    obtain ⟨shift, exponent⟩ := Int.le.dest above
    refine ⟨y.mantissa * 2 ^ shift, ?_⟩
    rw [Finite.size, ← exponent, two_zpow_add_natCast, Nat.cast_mul, Nat.cast_pow, Nat.cast_ofNat]
    ring
  · right
    refine ⟨?_, leadingBit_le numPositive denPositive (by omega)⟩
    have short : (y.mantissa : ℚ) < 2 * leadingBit := by exact_mod_cast y.canonical.1
    have coarser : (2 : ℚ) ^ y.exponent * 2 ≤ 2 ^ scaleExponent num den := by
      rw [← zpow_add_one₀ two_ne_zero]
      exact zpow_le_zpow_right₀ one_le_two (by omega)
    have unit : (0 : ℚ) < 2 ^ y.exponent := by positivity
    calc
      y.size < 2 * leadingBit * 2 ^ y.exponent := mul_lt_mul_of_pos_right short unit
      _ = leadingBit * (2 ^ y.exponent * 2) := by ring
      _ ≤ leadingBit * 2 ^ scaleExponent num den := by gcongr

/-- The distance of a quotient from a number on its grid, in units of the grid. -/
theorem abs_sub_grid (num den : Nat) (k : Nat) :
    |(num / den : ℚ) - k * 2 ^ scaleExponent num den| =
      |((num * wholePower 2 (-scaleExponent num den) : Nat) : ℚ) /
        (den * wholePower 2 (scaleExponent num den) : Nat) - k| * 2 ^ scaleExponent num den := by
  have unit : (0 : ℚ) < 2 ^ scaleExponent num den := by positivity
  have unscaled : (num / den : ℚ) - k * 2 ^ scaleExponent num den =
      (num / den / 2 ^ scaleExponent num den - k) * 2 ^ scaleExponent num den := by
    rw [sub_mul, div_mul_cancel₀ _ unit.ne']
  rw [scaled_div_scaled 2 (by decide), Nat.cast_ofNat, unscaled, abs_mul, abs_of_pos unit]

theorem scaled_den_pos (denPositive : 0 < den) :
    0 < den * wholePower 2 (scaleExponent num den) :=
  Nat.mul_pos denPositive (wholePower_pos (by decide) _)

section Rounded

variable (denPositive : 0 < den) (rounded : round negative num den = .finite x)

include denPositive rounded

/-- No number on the grid of a quotient is nearer than the double it is rounded to. -/
theorem abs_sub_size_le (k : Nat) :
    |(num / den : ℚ) - x.size| ≤ |(num / den : ℚ) - k * 2 ^ scaleExponent num den| := by
  rw [(size_of_round rounded).2.1, abs_sub_grid, abs_sub_grid]
  exact mul_le_mul_of_nonneg_right (abs_sub_roundQuotient_le (scaled_den_pos denPositive) k)
    (by positivity)

/-- Where another number on the grid is as near, the rounded mantissa is even. -/
theorem roundedMantissa_mod_two {k : Nat} (different : k * 2 ^ scaleExponent num den ≠ x.size)
    (equal : |(num / den : ℚ) - x.size| = |(num / den : ℚ) - k * 2 ^ scaleExponent num den|) :
    roundedMantissa num den % 2 = 0 := by
  have unit : (2 : ℚ) ^ scaleExponent num den ≠ 0 := by positivity
  rw [(size_of_round rounded).2.1] at different equal
  rw [abs_sub_grid, abs_sub_grid] at equal
  have sameDistance := (mul_right_cancel₀ unit equal).symm
  refine roundQuotient_mod_two_of_eq (scaled_den_pos denPositive) ?_ sameDistance
  rintro rfl
  exact different rfl

/-- A double other than the one that a quotient is rounded to is farther away, or it is as far
away and the mantissa of that one is even. -/
theorem farther_or_even (numPositive : 0 < num) {y : Finite} (different : y.size ≠ x.size) :
    |(num / den : ℚ) - x.size| < |(num / den : ℚ) - y.size| ∨
      |(num / den : ℚ) - x.size| = |(num / den : ℚ) - y.size| ∧ x.mantissa % 2 = 0 := by
  rcases on_grid_or_below numPositive denPositive y with ⟨k, onGrid⟩ | ⟨below, full⟩
  · rw [onGrid] at different ⊢
    rcases (abs_sub_size_le denPositive rounded k).lt_or_eq with less | equal
    · exact .inl less
    · have even := roundedMantissa_mod_two denPositive rounded different equal
      exact .inr ⟨equal, (size_of_round rounded).2.2 even⟩
  · left
    refine (abs_sub_size_le denPositive rounded leadingBit).trans_lt ?_
    rw [abs_of_nonneg (sub_nonneg.mpr full), abs_of_pos (sub_pos.mpr (below.trans_le full))]
    exact sub_lt_sub_left below _

end Rounded

/-! ## Overflow -/

/-- The last step of the largest double's grid. -/
def largestStep : ℚ :=
  2 ^ (971 : Int)

theorem largestStep_pos : 0 < largestStep := by
  unfold largestStep
  positivity

theorem overflowBound_eq : (overflowBound : ℚ) = (2 ^ 53 - 1 / 2) * largestStep := by
  have whole : overflowBound = (2 ^ 54 - 1) * 2 ^ 970 := by
    rw [overflowBound, show 1024 = 54 + 970 by rfl, pow_add, Nat.sub_mul, Nat.one_mul]
  have step : largestStep = 2 * 2 ^ 970 := pow_succ' (2 : ℚ) 970
  rw [whole, step, Nat.cast_mul, Nat.cast_pow, Nat.cast_ofNat]
  generalize (2 : ℚ) ^ 970 = half
  norm_num
  ring

/-- No finite double is greater than the one with the largest mantissa and exponent. -/
theorem Finite.size_le (x : Finite) : x.size ≤ (2 ^ 53 - 1) * largestStep := by
  have short : (x.mantissa : ℚ) + 1 ≤ 2 ^ 53 := by exact_mod_cast x.canonical.1
  have exponent : (2 : ℚ) ^ x.exponent ≤ largestStep :=
    zpow_le_zpow_right₀ one_le_two x.canonical.2.2.1
  exact mul_le_mul (le_sub_iff_add_le.mpr short) exponent (by positivity) (by norm_num)

section Overflow

variable (denPositive : 0 < den) (rounded : round negative num den = .finite x)

include denPositive rounded

/-- On the grid of the largest double the next number after it is nearer from halfway on, and
its mantissa is the even one. -/
theorem lt_overflowBound_of_scale_eq (scale : scaleExponent num den = 971) :
    (num / den : ℚ) < overflowBound := by
  rw [overflowBound_eq]
  by_contra notLess
  have unit := largestStep_pos
  have largest := x.size_le
  have near := abs_sub_size_le denPositive rounded (2 * leadingBit)
  have even := @roundedMantissa_mod_two _ _ _ _ denPositive rounded (2 * leadingBit)
  have size := (size_of_round rounded).2.1
  have bits : ((2 * leadingBit : Nat) : ℚ) = 2 ^ 53 := by norm_num
  rw [scale, bits, ← largestStep] at near even
  rw [scale, ← largestStep] at size
  have halfway : |(num / den : ℚ) - x.size| = |(num / den : ℚ) - 2 ^ 53 * largestStep| ∧
      x.size = (2 ^ 53 - 1) * largestStep := by
    rw [abs_of_nonneg (by linarith)] at near ⊢
    rcases abs_cases ((num / den : ℚ) - 2 ^ 53 * largestStep) with ⟨above, _⟩ | ⟨below, _⟩
    · rw [above] at near
      linarith
    · rw [below] at near ⊢
      constructor <;> linarith
  have isEven := even (by linarith [halfway.2]) halfway.1
  have mantissa : (roundedMantissa num den : ℚ) + 1 = 2 ^ 53 := by
    rw [mul_right_cancel₀ unit.ne' (size.symm.trans halfway.2), sub_add_cancel]
  have odd : roundedMantissa num den + 1 = 2 ^ 53 := by exact_mod_cast mantissa
  omega

/-- A quotient that is rounded to a finite double is less than the bound from which numbers
overflow. -/
theorem lt_overflowBound_of_round (numPositive : 0 < num) :
    (num / den : ℚ) < overflowBound := by
  have unit := largestStep_pos
  rcases lt_trichotomy (scaleExponent num den) 971 with below | equal | above
  · have high := (leadingExponent_bounds numPositive denPositive).2
    have power : (2 : ℚ) ^ (971 + (52 : Nat) : Int) = 2 ^ 52 * largestStep :=
      two_zpow_add_natCast 971 52
    have exponent : (2 : ℚ) ^ (leadingExponent num den + 1) ≤ 2 ^ (971 + (52 : Nat) : Int) := by
      apply zpow_le_zpow_right₀ one_le_two
      unfold scaleExponent at below
      omega
    rw [power] at exponent
    rw [overflowBound_eq]
    linarith
  · exact lt_overflowBound_of_scale_eq denPositive rounded equal
  · -- The least full mantissa of the grid is beyond all doubles, and nearer.
    have near := abs_sub_size_le denPositive rounded leadingBit
    have full := leadingBit_le numPositive denPositive (by omega)
    have largest := x.size_le
    have coarse : 2 * largestStep ≤ 2 ^ scaleExponent num den := by
      rw [largestStep, ← zpow_one_add₀ two_ne_zero]
      exact zpow_le_zpow_right₀ one_le_two (by omega)
    have bits : ((leadingBit : Nat) : ℚ) = 2 ^ 52 := by norm_num
    rw [bits] at near full
    rw [abs_of_nonneg (by linarith), abs_of_nonneg (sub_nonneg.mpr full)] at near
    linarith

end Overflow

end Grid

/-! ## Rounding -/

/-- A number rounds to a finite double: it lies within the range, no double is nearer, and if
another one is as near, the mantissa of this one is even. -/
structure RoundsTo (number : ℚ) (x : Finite) : Prop where
  inRange : |number| < overflowBound
  nearest : ∀ y : Finite, |number - x.value| ≤ |number - y.value|
  even : ∀ y : Finite, y.value ≠ x.value → |number - x.value| = |number - y.value| →
    x.mantissa % 2 = 0

theorem Finite.abs_value_eq_size (x : Finite) : |x.value| = x.size :=
  x.abs_value

/-- The sign of a double as a factor. -/
def signFactor (negative : Bool) : ℚ :=
  if negative then -1 else 1

theorem Finite.value_eq_size (x : Finite) : x.value = signFactor x.negative * x.size :=
  x.value_eq

theorem abs_signFactor_mul (negative : Bool) (number : ℚ) :
    |signFactor negative * number| = |number| := by
  cases negative <;> simp [signFactor]

theorem signFactor_mul_self (negative : Bool) (number : ℚ) :
    signFactor negative * (signFactor negative * number) = number := by
  cases negative <;> simp [signFactor]

/-- Distances from a number are those from its opposite. -/
theorem abs_signFactor_mul_sub (negative : Bool) (number other : ℚ) :
    |signFactor negative * number - other| = |number - signFactor negative * other| := by
  rw [← abs_signFactor_mul negative, mul_sub, signFactor_mul_self]

/-- Zero rounds to zero. -/
theorem roundsTo_zero {x : Finite} (zero : x.value = 0) : RoundsTo 0 x := by
  have bound : (0 : ℚ) < overflowBound := by
    rw [overflowBound_eq]
    have unit := largestStep_pos
    linarith
  refine ⟨by rwa [abs_zero], fun y => ?_, fun y different equal => ?_⟩
  · rw [zero, sub_self, abs_zero]
    exact abs_nonneg _
  · rw [zero, sub_self, abs_zero, zero_sub, abs_neg, eq_comm, abs_eq_zero] at equal
    exact absurd (equal.trans zero.symm) different

section Signed

variable {num den : Nat} {negative : Bool} {x : Finite} (denPositive : 0 < den)
  (rounded : round negative num den = .finite x)

include denPositive rounded

/-- A double of either sign, other than the one that a positive quotient is rounded to, is
farther away, or it is as far away and the mantissa of that one is even. -/
theorem farther_or_even_of_abs (numPositive : 0 < num) {y : Finite} {other : ℚ}
    (size : |other| = y.size) (different : other ≠ x.size) :
    |(num / den : ℚ) - x.size| < |(num / den : ℚ) - other| ∨
      |(num / den : ℚ) - x.size| = |(num / den : ℚ) - other| ∧ x.mantissa % 2 = 0 := by
  have positive : (0 : ℚ) < num / den := by positivity
  have nonnegative := x.size_nonneg
  -- Below zero a double is no nearer than its opposite.
  have farther : |(num / den : ℚ) - y.size| ≤ |(num / den : ℚ) - other| := by
    have triangle := abs_abs_sub_abs_le (num / den : ℚ) other
    rwa [abs_of_pos positive, size] at triangle
  by_cases sameSize : y.size = x.size
  · left
    have opposite : other = -x.size := by
      rcases abs_choice other with same | opposite
      · exact absurd (same.symm.trans (size.trans sameSize)) different
      · linarith
    have nonzero : 0 < x.size := by
      refine nonnegative.lt_of_ne ?_
      rintro zero
      rw [opposite, ← zero, neg_zero] at different
      exact different rfl
    rw [opposite, sub_neg_eq_add, abs_of_pos (by positivity : 0 < (num / den : ℚ) + x.size), abs_lt]
    constructor <;> linarith
  · rcases farther_or_even denPositive rounded numPositive sameSize with less | ⟨equal, even⟩
    · exact .inl (less.trans_le farther)
    · rcases farther.lt_or_eq with less | same
      · exact .inl (equal.trans_lt less)
      · exact .inr ⟨equal.trans same, even⟩

/-- Rounding a quotient gives the double that its value rounds to. -/
theorem roundsTo_of_round : RoundsTo (signFactor negative * (num / den)) x := by
  obtain ⟨sign, size, -⟩ := size_of_round rounded
  have value : ∀ number, |signFactor negative * number - x.value| = |number - x.size| := by
    intro number
    rw [abs_signFactor_mul_sub, x.value_eq_size, sign, signFactor_mul_self]
  rcases Nat.eq_zero_or_pos num with rfl | numPositive
  · have zero : x.size = 0 := by
      have mantissa : roundedMantissa 0 den = 0 := by simp [roundedMantissa, roundQuotient]
      rw [size, mantissa, Nat.cast_zero, zero_mul]
    rw [Nat.cast_zero, zero_div, mul_zero]
    exact roundsTo_zero (by rw [x.value_eq_size, zero, mul_zero])
  · have others (y : Finite) (different : y.value ≠ x.value) :=
      @farther_or_even_of_abs _ _ _ _ denPositive rounded numPositive y
        (signFactor negative * y.value) (by rw [abs_signFactor_mul, y.abs_value_eq_size])
        (by
          intro equal
          apply different
          rw [← signFactor_mul_self negative y.value, equal, x.value_eq_size, sign])
    refine ⟨?_, fun y => ?_, fun y different equal => ?_⟩
    · rw [abs_signFactor_mul, abs_of_nonneg (by positivity)]
      exact lt_overflowBound_of_round denPositive rounded numPositive
    · rw [value, abs_signFactor_mul_sub]
      by_cases same : y.value = x.value
      · rw [same, x.value_eq_size, sign, signFactor_mul_self]
      · rcases others y same with less | ⟨equal, -⟩
        · exact less.le
        · exact equal.le
    · rw [value, abs_signFactor_mul_sub] at equal
      rcases others y different with less | ⟨-, even⟩
      · exact absurd equal less.ne
      · exact even

end Signed

end Binary64

end Typeset
