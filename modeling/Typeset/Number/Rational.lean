/-!
# Rounding of quotients

Numbers are read and printed through quotients of natural numbers.  A quotient
is rounded to the nearest natural number, and a tie goes to the even one.
-/

namespace Typeset.Number

/-- A power of a base; one where the exponent is negative.  A quotient is scaled
by `base ^ exponent` when its numerator is multiplied by the whole power of
`exponent` and its denominator by the whole power of `-exponent`. -/
def wholePower (base : Nat) (exponent : Int) : Nat :=
  base.pow exponent.toNat

theorem wholePower_pos {base : Nat} (positive : 0 < base) (exponent : Int) :
    0 < wholePower base exponent :=
  Nat.pow_pos positive

theorem wholePower_mono {base : Nat} (positive : 0 < base) {exponent larger : Int}
    (le : exponent ≤ larger) : wholePower base exponent ≤ wholePower base larger :=
  Nat.pow_le_pow_right positive (Int.toNat_le_toNat le)

/-- The natural number nearest to `num / den`; a tie goes to the even one. -/
def roundQuotient (num den : Nat) : Nat :=
  let floor := num / den
  let twice := 2 * (num % den)
  if twice < den then floor
  else if den < twice then floor + 1
  else if floor % 2 = 0 then floor
  else floor + 1

/-- Rounding moves a quotient by half a unit at most, upwards. -/
theorem two_mul_le_roundQuotient {num den : Nat} (positive : 0 < den) :
    2 * num ≤ (2 * roundQuotient num den + 1) * den := by
  have split := Nat.div_add_mod num den
  have small := Nat.mod_lt num positive
  have floorStep : ∀ k : Nat, (2 * k + 1) * den = 2 * (den * k) + den := by
    intro k
    rw [Nat.add_mul, Nat.mul_assoc, Nat.mul_comm k den, Nat.one_mul]
  have nextStep : den * (num / den + 1) = den * (num / den) + den := Nat.mul_succ _ _
  simp only [roundQuotient]
  split
  · rw [floorStep]; omega
  · split
    · rw [floorStep, nextStep]; omega
    · split
      · rw [floorStep]; omega
      · rw [floorStep, nextStep]; omega

/-- Rounding moves a quotient by half a unit at most, downwards. -/
theorem roundQuotient_mul_le {num den : Nat} (positive : 0 < den) :
    2 * (roundQuotient num den * den) ≤ 2 * num + den := by
  have split := Nat.div_add_mod num den
  have small := Nat.mod_lt num positive
  have swap : ∀ k : Nat, k * den = den * k := fun k => Nat.mul_comm k den
  have nextStep : den * (num / den + 1) = den * (num / den) + den := Nat.mul_succ _ _
  simp only [roundQuotient]
  split
  · rw [swap]; omega
  · split
    · rw [swap, nextStep]; omega
    · split
      · rw [swap]; omega
      · rw [swap, nextStep]; omega

end Typeset.Number
