import Typeset.Proofs.Number.Rounding

/-!
# The shortest decimal

Seventeen digits are enough to tell every double.  Main statement: the shortest decimal
of a double reads back as that double.
-/

namespace Typeset

open Binary64

/-! ## Decimals -/

namespace Binary64

open Number

/-- Three bits are less than a digit. -/
theorem wholePower_two_le {bits digits : Nat} (fewer : bits ≤ 3 * digits) :
    wholePower 2 bits ≤ wholePower 10 digits :=
  calc
    2 ^ bits ≤ 2 ^ (3 * digits) := Nat.pow_le_pow_right (by decide) fewer
    _ = 8 ^ digits := Nat.pow_mul 2 3 digits
    _ ≤ 10 ^ digits := Nat.pow_le_pow_left (by decide) digits

/-- A negative power of ten is less than one of two with three times the exponent. -/
theorem ten_zpow_le_two_zpow {bits digits : Nat} (fewer : bits ≤ 3 * digits) :
    (10 : ℚ) ^ (-digits : Int) ≤ 2 ^ (-bits : Int) := by
  rw [zpow_neg, zpow_neg]
  apply inv_anti₀ (by positivity)
  have whole : (2 : Nat) ^ bits ≤ 10 ^ digits := wholePower_two_le fewer
  exact_mod_cast whole

/-- The value of a decimal as a quotient. -/
theorem decimal_quotient (digits : Nat) (power : Int) :
    ((digits * wholePower 10 power : Nat) : ℚ) / wholePower 10 (-power) = digits * 10 ^ power := by
  rw [Nat.cast_mul, mul_div_assoc, wholePower_div_wholePower 10 (by decide) power, Nat.cast_ofNat]

/-- Reading a decimal rounds its value: where a power is cut short, the result is the same. -/
theorem ofDecimal_eq_round {digits : Nat} (nonzero : digits ≠ 0) (power : Int) (negative : Bool) :
    ofDecimal negative digits power =
      round negative (digits * wholePower 10 power) (wholePower 10 (-power)) := by
  rw [ofDecimal, if_neg nonzero]
  split
  · rename_i large
    have whole : wholePower 10 (-power) = 1 := by
      have noPower : (-power).toNat = 0 := by omega
      rw [wholePower, noPower]
    have overflows : wholePower 2 1024 ≤ digits * wholePower 10 power :=
      calc
        wholePower 2 1024 ≤ wholePower 10 400 := wholePower_two_le (by decide : 1024 ≤ 3 * 400)
        _ ≤ wholePower 10 power := wholePower_mono (by decide) (by omega)
        _ ≤ digits * wholePower 10 power := Nat.le_mul_of_pos_left _ (Nat.pos_of_ne_zero nonzero)
    rw [whole, round_of_le overflows]
  · dsimp only
    split
    · rename_i small
      have digitsBound : digits < 10 ^ (Nat.toDigits 10 digits).length :=
        (Nat.length_toDigits_le_iff (by decide) Nat.length_toDigits_pos).mp le_rfl
      have digitsBoundQ : (digits : ℚ) < 10 ^ ((Nat.toDigits 10 digits).length : Int) := by
        exact_mod_cast digitsBound
      have underflows : (digits * 10 ^ power : ℚ) < 2 ^ (-1075 : Int) :=
        calc
          (digits * 10 ^ power : ℚ)
            < 10 ^ ((Nat.toDigits 10 digits).length : Int) * 10 ^ power := by gcongr
          _ = 10 ^ ((Nat.toDigits 10 digits).length + power) := (zpow_add₀ (by norm_num) _ _).symm
          _ ≤ 10 ^ (-400 : Int) := zpow_le_zpow_right₀ (by norm_num) (by omega)
          _ ≤ 2 ^ (-1076 : Int) := ten_zpow_le_two_zpow (by decide : 1076 ≤ 3 * 400)
          _ < 2 ^ (-1075 : Int) := zpow_lt_zpow_right₀ (by norm_num) (by decide)
      rw [round_zero, round_of_lt (wholePower_pos (by decide) _)]
      rw [decimal_quotient]
      exact underflows
    · rfl

end Binary64

namespace Number

namespace Decimal

/-- The value of a decimal. -/
def value (decimal : Decimal) : ℚ :=
  decimal.digits * 10 ^ decimal.power

theorem toBinary64_eq_round {decimal : Decimal} (nonzero : decimal.digits ≠ 0) (negative : Bool) :
    decimal.toBinary64 negative =
      round negative (decimal.digits * wholePower 10 decimal.power)
        (wholePower 10 (-decimal.power)) :=
  ofDecimal_eq_round nonzero decimal.power negative

/-- Decimals of the same value read as the same double. -/
theorem toBinary64_congr {decimal other : Decimal} (nonzero : decimal.digits ≠ 0)
    (otherNonzero : other.digits ≠ 0) (equal : decimal.value = other.value) (negative : Bool) :
    decimal.toBinary64 negative = other.toBinary64 negative := by
  rw [toBinary64_eq_round nonzero, toBinary64_eq_round otherNonzero]
  apply round_congr (wholePower_pos (by decide) _) (wholePower_pos (by decide) _)
  rw [decimal_quotient, decimal_quotient]
  exact equal

theorem value_dropZeros (fuel : Nat) (decimal : Decimal) :
    (dropZeros fuel decimal).value = decimal.value := by
  induction fuel generalizing decimal with
  | zero => rfl
  | succ fuel ih =>
      rw [dropZeros]
      split
      · rename_i zeros
        have whole : ((decimal.digits / 10 : Nat) : ℚ) * 10 = decimal.digits := by
          exact_mod_cast Nat.div_mul_cancel (Nat.dvd_of_mod_eq_zero zeros.2)
        rw [ih, value, value, zpow_add_one₀ (by norm_num), ← whole]
        ring
      · rfl

theorem digits_dropZeros_ne_zero {fuel : Nat} {decimal : Decimal}
    (nonzero : decimal.digits ≠ 0) : (dropZeros fuel decimal).digits ≠ 0 := by
  induction fuel generalizing decimal with
  | zero => exact nonzero
  | succ fuel ih =>
      rw [dropZeros]
      split
      · exact ih (by dsimp only; omega)
      · exact nonzero

end Decimal

/-! ## The search for digits -/

/-- Whether a decimal reads back as a double other than zero. -/
def readsBack (x : Finite) (decimal : Decimal) : Bool :=
  decimal.digits ≠ 0 && decimal.toBinary64 x.negative == .finite x

theorem readsBack_iff {x : Finite} {decimal : Decimal} :
    readsBack x decimal = true ↔
      decimal.digits ≠ 0 ∧ decimal.toBinary64 x.negative = .finite x := by
  rw [readsBack, Bool.and_eq_true, decide_eq_true_iff, beq_iff_eq]

theorem magnitude_div (x : Finite) :
    (x.magnitude.1 : ℚ) / x.magnitude.2 = x.mantissa * 2 ^ x.exponent := by
  rw [Finite.magnitude, Nat.cast_mul, mul_div_assoc,
    wholePower_div_wholePower 2 (by decide) x.exponent, Nat.cast_ofNat]

theorem magnitude_den_pos (x : Finite) : 0 < x.magnitude.2 :=
  wholePower_pos (by decide) _

/-- Rounding goes to one of the two natural numbers around a quotient. -/
theorem roundQuotient_cases (num den : Nat) :
    roundQuotient num den = num / den ∨ roundQuotient num den = num / den + 1 := by
  simp only [roundQuotient]
  split
  · exact .inl rfl
  · split
    · exact .inr rfl
    · split
      · exact .inl rfl
      · exact .inr rfl

section Search

variable {x : Finite} {power : Int}

/-- The digits of the decimal next below a double. -/
def digitsBelow (x : Finite) (power : Int) : Nat :=
  x.magnitude.1 * wholePower 10 (-power) / (x.magnitude.2 * wholePower 10 power)

/-- The digits of the decimal nearest to a double. -/
def nearestDigits (x : Finite) (power : Int) : Nat :=
  roundQuotient (x.magnitude.1 * wholePower 10 (-power)) (x.magnitude.2 * wholePower 10 power)

theorem nearestDigits_cases (x : Finite) (power : Int) :
    nearestDigits x power = digitsBelow x power ∨
      nearestDigits x power = digitsBelow x power + 1 :=
  roundQuotient_cases _ _

theorem neighbour?_eq (x : Finite) (power : Int) :
    neighbour? x power =
      if readsBack x ⟨digitsBelow x power, power⟩ &&
          readsBack x ⟨digitsBelow x power + 1, power⟩ then
        some ⟨nearestDigits x power, power⟩
      else if readsBack x ⟨digitsBelow x power, power⟩ then some ⟨digitsBelow x power, power⟩
      else if readsBack x ⟨digitsBelow x power + 1, power⟩ then
        some ⟨digitsBelow x power + 1, power⟩
      else none :=
  rfl

/-- What is found next to a double reads back. -/
theorem readsBack_of_neighbour? {decimal : Decimal} (found : neighbour? x power = some decimal) :
    readsBack x decimal = true := by
  rw [neighbour?_eq] at found
  split at found
  · rename_i both
    obtain ⟨below, above⟩ := Bool.and_eq_true_iff.mp both
    cases found
    rcases nearestDigits_cases x power with nearest | nearest
    · rw [nearest]
      exact below
    · rw [nearest]
      exact above
  · split at found
    · rename_i below
      cases found
      exact below
    · split at found
      · rename_i above
        cases found
        exact above
      · contradiction

/-- Something is found next to a double if the nearest decimal reads back. -/
theorem exists_neighbour?_eq_some (nearest : readsBack x ⟨nearestDigits x power, power⟩ = true) :
    ∃ decimal, neighbour? x power = some decimal := by
  rw [neighbour?_eq]
  rcases nearestDigits_cases x power with isBelow | isAbove
  · rw [isBelow] at nearest
    split
    · exact ⟨_, rfl⟩
    · exact ⟨_, rfl⟩
  · rw [isAbove] at nearest
    split
    · exact ⟨_, rfl⟩
    · split
      · exact ⟨_, rfl⟩
      · exact ⟨_, rfl⟩

/-- The search ends with a decimal that reads back if seventeen digits are enough. -/
theorem readsBack_searchDigits {whole : Int}
    (enough : readsBack x ⟨nearestDigits x (whole - 17), whole - 17⟩ = true) (remaining : Nat) :
    readsBack x (searchDigits x whole remaining) = true := by
  induction remaining with
  | zero =>
      obtain ⟨decimal, found⟩ := exists_neighbour?_eq_some enough
      rw [searchDigits, found]
      exact readsBack_of_neighbour? found
  | succ remaining ih =>
      rw [searchDigits]
      split
      · rename_i decimal found
        exact readsBack_of_neighbour? found
      · exact ih

/-! ## Seventeen digits -/

/-- The number of digits places a number between two powers of ten. -/
theorem length_toDigits_bounds {n : Nat} (positive : 0 < n) :
    10 ^ ((Nat.toDigits 10 n).length - 1) ≤ n ∧ n < 10 ^ (Nat.toDigits 10 n).length := by
  constructor
  · rcases Nat.eq_zero_or_pos ((Nat.toDigits 10 n).length - 1) with single | more
    · rw [single]
      exact positive
    · have notShorter := (Nat.length_toDigits_le_iff (b := 10) (n := n) (by decide) more).not
      exact Nat.not_lt.mp (notShorter.mp (by omega))
  · exact (Nat.length_toDigits_le_iff (by decide) Nat.length_toDigits_pos).mp le_rfl

/-- A quotient with 400 places, cut off at the point. -/
theorem floor_bounds {num den : Nat} (positive : 0 < den) :
    ((num * wholePower 10 400 / den : Nat) : ℚ) ≤ num / den * 10 ^ (400 : Int) ∧
      (num / den * 10 ^ (400 : Int) : ℚ) < (num * wholePower 10 400 / den : Nat) + 1 := by
  have denPositive : (0 : ℚ) < den := by exact_mod_cast positive
  have whole : ∀ n : Nat, (wholePower 10 n : ℚ) = 10 ^ (n : Int) := fun n => by
    simp [wholePower]
  have scaled : ((num * wholePower 10 400 : Nat) : ℚ) = num / den * 10 ^ (400 : Int) * den := by
    rw [Nat.cast_mul, mul_right_comm, div_mul_cancel₀ _ denPositive.ne']
    exact congrArg _ (whole 400)
  constructor
  · refine le_of_mul_le_mul_right ?_ denPositive
    rw [← scaled]
    exact_mod_cast Nat.div_mul_le_self _ den
  · refine lt_of_mul_lt_mul_right ?_ denPositive.le
    rw [← scaled, mul_comm ((_ : ℚ) + 1)]
    exact_mod_cast Nat.lt_mul_div_succ _ positive

/-- The number of whole digits places a quotient between two powers of ten. -/
theorem wholeDigits_bounds {num den : Nat} (positive : 0 < den)
    (notTiny : (10 : ℚ) ^ (-400 : Int) ≤ num / den) :
    (10 : ℚ) ^ (wholeDigits num den - 1) ≤ num / den ∧
      (num / den : ℚ) < 10 ^ wholeDigits num den := by
  have ten : (10 : ℚ) ≠ 0 := by norm_num
  have split : ∀ n : Int, (10 : ℚ) ^ (n - 400) = 10 ^ n / 10 ^ (400 : Int) := fun n =>
    zpow_sub₀ ten n 400
  have scale : (0 : ℚ) < 10 ^ (400 : Int) := by positivity
  obtain ⟨floorLow, floorHigh⟩ := @floor_bounds num den positive
  rw [wholeDigits]
  generalize num * wholePower 10 400 / den = floor at *
  have floorPositive : 0 < floor := by
    apply Nat.pos_of_ne_zero
    rintro rfl
    rw [zpow_neg, inv_le_iff_one_le_mul₀ scale] at notTiny
    rw [Nat.cast_zero, zero_add] at floorHigh
    linarith
  obtain ⟨lower, upper⟩ := length_toDigits_bounds floorPositive
  have nonempty : 0 < (Nat.toDigits 10 floor).length := Nat.length_toDigits_pos
  generalize (Nat.toDigits 10 floor).length = length at *
  obtain ⟨before, rfl⟩ := Nat.exists_eq_succ_of_ne_zero nonempty.ne'
  have upperQ : (floor : ℚ) + 1 ≤ 10 ^ ((before.succ : Nat) : Int) := by exact_mod_cast upper
  have lowerQ : (10 : ℚ) ^ (before : Int) ≤ floor := by exact_mod_cast lower
  constructor
  · rw [show ((before.succ : Nat) : Int) - 400 - 1 = before - 400 by omega, split,
      div_le_iff₀ scale]
    linarith
  · rw [split, lt_div_iff₀ scale]
    linarith

/-- Seventeen digits are enough: the nearest decimal of that length reads back. -/
theorem readsBack_nearestDigits (nonzero : x.mantissa ≠ 0) {whole : Int}
    (low : (10 : ℚ) ^ (whole - 1) ≤ x.mantissa * 2 ^ x.exponent) :
    readsBack x ⟨nearestDigits x (whole - 17), whole - 17⟩ = true := by
  have grid : (0 : ℚ) < 10 ^ (whole - 17) := by positivity
  have finer : (10 : ℚ) ^ 16 * 10 ^ (whole - 17) ≤ x.mantissa * 2 ^ x.exponent := by
    refine le_trans (le_of_eq ?_) low
    rw [← zpow_natCast, ← zpow_add₀ (by norm_num), Nat.cast_ofNat]
    congr 1
    omega
  have moved : |(nearestDigits x (whole - 17) : ℚ) -
      x.mantissa * 2 ^ x.exponent / 10 ^ (whole - 17)| ≤ 1 / 2 := by
    have bound := @abs_roundQuotient_sub_le (x.magnitude.1 * wholePower 10 (-(whole - 17)))
      (x.magnitude.2 * wholePower 10 (whole - 17))
      (Nat.mul_pos (magnitude_den_pos x) (wholePower_pos (by decide) _))
    rw [scaled_div_scaled 10 (by decide), magnitude_div] at bound
    exact bound
  generalize nearestDigits x (whole - 17) = digits at *
  obtain ⟨above, below⟩ := abs_le.mp moved
  rw [neg_le_sub_iff_le_add, div_le_iff₀ grid] at above
  rw [sub_le_iff_le_add, ← sub_le_iff_le_add', le_div_iff₀ grid] at below
  have digitsNonzero : digits ≠ 0 := by
    rintro rfl
    rw [Nat.cast_zero, zero_add] at above
    linarith
  refine readsBack_iff.mpr ⟨digitsNonzero, ?_⟩
  rw [Decimal.toBinary64_eq_round digitsNonzero]
  apply round_of_near nonzero (wholePower_pos (by decide) _)
  rw [decimal_quotient, ← lt_div_iff₀ (by positivity), abs_lt]
  constructor <;> linarith

/-- The shortest decimal of a double reads back as that double. -/
theorem readsBack_shortest (nonzero : x.mantissa ≠ 0) : readsBack x (shortest x) = true := by
  have notTiny : (10 : ℚ) ^ (-400 : Int) ≤ x.magnitude.1 / x.magnitude.2 := by
    rw [magnitude_div]
    have least := x.canonical.2.1
    have one : (1 : ℚ) ≤ x.mantissa := by exact_mod_cast Nat.pos_of_ne_zero nonzero
    calc
      (10 : ℚ) ^ (-400 : Int) ≤ 2 ^ (-1074 : Int) :=
        ten_zpow_le_two_zpow (by decide : 1074 ≤ 3 * 400)
      _ ≤ 2 ^ x.exponent := zpow_le_zpow_right₀ (by norm_num) least
      _ ≤ x.mantissa * 2 ^ x.exponent := le_mul_of_one_le_left (by positivity) one
  have low := (wholeDigits_bounds (magnitude_den_pos x) notTiny).1
  rw [magnitude_div] at low
  obtain ⟨found, reads⟩ :=
    readsBack_iff.mp (readsBack_searchDigits (readsBack_nearestDigits nonzero low) 16)
  apply readsBack_iff.mpr
  have kept := @Decimal.digits_dropZeros_ne_zero 20 _ found
  refine ⟨kept, ?_⟩
  rw [← reads]
  exact Decimal.toBinary64_congr kept found (Decimal.value_dropZeros 20 _) x.negative

end Search

end Number

end Typeset
