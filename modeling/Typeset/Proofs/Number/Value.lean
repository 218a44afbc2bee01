import Typeset.Number.Basic

/-!
# The values of numbers

Every number but an infinity has a rational value.  Numbers are compared without
rounding, on integers scaled to a common exponent, and the comparison is that of the
values.
-/

namespace Typeset

/-- The value of a finite double. -/
def Binary64.Finite.value (x : Finite) : Rat :=
  Number.coefficient x * 2 ^ x.exponent

namespace Number

/-- The value of a number; an infinity has none. -/
def value? : Number → Option Rat
  | .int n => some n
  | .double (.finite x) => some x.value
  | .double _ => none

/-- Scaling to a smaller exponent keeps the value. -/
theorem scaleTo_mul {base exponent : Int} (le : base ≤ exponent) (coefficient : Int) :
    (scaleTo base coefficient exponent : Rat) * 2 ^ base = coefficient * 2 ^ exponent := by
  have two : (2 : Rat) ≠ 0 := by decide
  have power : ((wholePower 2 (exponent - base) : Nat) : Rat) = 2 ^ (exponent - base) := by
    have difference : ((exponent - base).toNat : Int) = exponent - base := by omega
    have cast : ((wholePower 2 (exponent - base) : Nat) : Rat) =
        2 ^ (exponent - base).toNat := by
      simp [wholePower]
    rw [cast, ← Rat.zpow_natCast, difference]
  have sum : exponent - base + base = exponent := by omega
  rw [scaleTo, Rat.intCast_mul, Rat.intCast_natCast, power, Rat.mul_assoc, ← Rat.zpow_add two, sum]

/-- The scaled comparison is that of the values. -/
theorem scaledLe_iff {a b : Int × Int} :
    scaledLe a b = true ↔ (a.1 : Rat) * 2 ^ a.2 ≤ b.1 * 2 ^ b.2 := by
  have positive : (0 : Rat) < 2 ^ min a.2 b.2 := Rat.zpow_pos (by decide)
  rw [← scaleTo_mul (Int.min_le_left a.2 b.2), ← scaleTo_mul (Int.min_le_right a.2 b.2)]
  simp only [scaledLe, decide_eq_true_iff]
  constructor
  · intro le
    exact Rat.mul_le_mul_of_nonneg_right (Rat.intCast_le_intCast.mpr le) (Rat.le_of_lt positive)
  · intro le
    exact Rat.intCast_le_intCast.mp (Rat.le_of_mul_le_mul_right le positive)

/-- A number lies between two integers when its value does. -/
theorem within_iff {low high : Int} {number : Number} :
    number.within low high = true ↔
      ∃ value, number.value? = some value ∧ (low : Rat) ≤ value ∧ value ≤ high := by
  rw [within, Bool.and_eq_true]
  cases number with
  | int n =>
      simp only [le, decide_eq_true_iff, value?, Option.some.injEq, exists_eq_left',
        Rat.intCast_le_intCast]
  | double x =>
      cases x with
      | finite x => simp [le, value?, scaledLe_iff, Binary64.Finite.value]
      | infinite negative => cases negative <;> simp [le, value?]
      | nan => simp [le, value?]

end Number

end Typeset
