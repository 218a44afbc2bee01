import Typeset.Number.Basic

/-!
# Integers within the range of doubles

An integer that has a double lies below `2 ^ 1024`, so its digits are far fewer
than the limit for writing integers.
-/

namespace Typeset

namespace Number

/-- A quotient of at least one rounds to at least one. -/
theorem roundQuotient_pos {num den : Nat} (positive : 0 < den) (le : den ≤ num) :
    0 < roundQuotient num den := by
  have bound := @two_mul_le_roundQuotient num den positive
  apply Nat.pos_of_ne_zero
  intro zero
  rw [zero] at bound
  omega

/-- A number has as many bits as its logarithm says. -/
theorem le_log2_of_wholePower_le {exponent n : Nat} (le : wholePower 2 exponent ≤ n) :
    n ≠ 0 ∧ exponent ≤ n.log2 := by
  have nonzero : n ≠ 0 := Nat.ne_of_gt (Nat.lt_of_lt_of_le (wholePower_pos (by decide) _) le)
  exact ⟨nonzero, (Nat.le_log2 nonzero).mpr le⟩

theorem wholePower_le_wholePower {base other exponent larger : Nat} (bases : base ≤ other)
    (positive : 0 < other) (exponents : exponent ≤ larger) :
    wholePower base exponent ≤ wholePower other larger :=
  Nat.le_trans (Nat.pow_le_pow_left bases exponent) (Nat.pow_le_pow_right positive exponents)

theorem wholePower_neg_natCast (base exponent : Nat) :
    wholePower base (-(exponent : Int)) = 1 := by
  have none : (-(exponent : Int)).toNat = 0 := by omega
  simp [wholePower, none]

end Number

namespace Binary64

open Number

/-- An exponent above the greatest one overflows. -/
theorem ofParts_of_lt {negative : Bool} {mantissa : Nat} {exponent : Int} (above : 971 < exponent) :
    ofParts negative mantissa exponent = .infinite negative := by
  have notCanonical : ¬Canonical mantissa exponent := by
    rintro ⟨-, -, below, -⟩
    omega
  rw [ofParts, dif_neg notCanonical]

theorem leadingExponent_one {n : Nat} (positive : n ≠ 0) :
    leadingExponent n 1 = (n.log2 : Int) := by
  have bound := Nat.log2_self_le positive
  have logOne : Nat.log2 1 = 0 := by decide
  have power : wholePower 2 n.log2 = 2 ^ n.log2 := rfl
  simp only [leadingExponent, logOne, Int.natCast_zero, Int.sub_zero, power,
    wholePower_neg_natCast]
  rw [if_neg (by omega)]

/-- Integers from `2 ^ 1024` on have no double. -/
theorem round_of_le {negative : Bool} {n : Nat} (large : wholePower 2 1024 ≤ n) :
    round negative n 1 = .infinite negative := by
  have power : ∀ exponent : Nat, wholePower 2 exponent = 2 ^ exponent := fun _ => rfl
  obtain ⟨positive, log⟩ : n ≠ 0 ∧ 1024 ≤ n.log2 := le_log2_of_wholePower_le large
  have leading := leadingExponent_one positive
  have exponentIs : max (-1074) (leadingExponent n 1 - 52) = ((n.log2 - 52 : Nat) : Int) := by
    omega
  have atMost : 2 ^ (n.log2 - 52) ≤ n :=
    Nat.le_trans (Nat.pow_le_pow_right (by decide) (by omega)) (Nat.log2_self_le positive)
  have mantissaPositive := roundQuotient_pos (Nat.two_pow_pos (n.log2 - 52)) atMost
  simp only [round, exponentIs, power, wholePower_neg_natCast, Nat.mul_one,
    Nat.one_mul, if_neg (Nat.ne_of_gt mantissaPositive)]
  split
  · exact ofParts_of_lt (by omega)
  · exact ofParts_of_lt (by omega)

end Binary64

namespace Number

/-- An integer with a double is less than `2 ^ 1024`. -/
theorem natAbs_lt_of_toBinary64? {n : Int} {x : Binary64} (found : (int n).toBinary64? = some x) :
    n.natAbs < wholePower 2 1024 := by
  apply Nat.lt_of_not_le
  intro large
  have overflow : Binary64.ofInt n = .infinite (n < 0) := Binary64.round_of_le large
  rw [toBinary64?, overflow] at found
  contradiction

/-- A number with a double can be written. -/
theorem isWritable_of_toBinary64? {number : Number} {x : Binary64}
    (found : number.toBinary64? = some x) : number.isWritable = true := by
  cases number with
  | double value => rfl
  | int n =>
      apply isWritable_int_iff.mpr
      exact Nat.lt_of_lt_of_le (natAbs_lt_of_toBinary64? found)
        (wholePower_le_wholePower (by decide) (by decide) (by decide))

end Number

end Typeset
