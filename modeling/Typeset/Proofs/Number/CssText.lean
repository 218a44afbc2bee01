import Typeset.Proofs.Number.Reading

/-!
# Numbers in a style sheet

Main statement: two numbers with values are written alike in a style sheet when their
values are equal, and only then.  Integers and whole doubles are integer numerals there;
every other double has a point or an exponent, and is told by its shortest decimal.
-/

namespace Typeset

open Number

namespace Binary64.Finite

variable {x y : Finite}

/-! ## Whole doubles -/

theorem whole?_eq_some_iff {n : Nat} :
    x.whole? = some n ↔ (x.mantissa * 2 ^ x.exponent : ℚ) = n := by
  have denNonzero : (x.magnitude.2 : ℚ) ≠ 0 := by
    exact_mod_cast (magnitude_den_pos x).ne'
  rw [← magnitude_div, div_eq_iff denNonzero]
  have cast : (x.magnitude.1 : ℚ) = n * x.magnitude.2 ↔ x.magnitude.1 = n * x.magnitude.2 := by
    norm_cast
  rw [cast, whole?]
  dsimp only
  constructor
  · intro found
    split at found
    · rename_i divides
      cases found
      exact (Nat.div_mul_cancel (Nat.dvd_of_mod_eq_zero divides)).symm
    · contradiction
  · intro product
    rw [if_pos (by rw [product, Nat.mul_mod_left]), product,
      Nat.mul_div_cancel _ (magnitude_den_pos x)]

theorem value_eq (x : Finite) :
    x.value = (if x.negative then -1 else 1) * (x.mantissa * 2 ^ x.exponent) := by
  unfold value coefficient
  split <;> simp

theorem wholeValue?_eq (x : Finite) :
    wholeValue? x = x.whole?.map fun n : Nat => if x.negative then -(n : Int) else (n : Int) := by
  unfold wholeValue?
  cases x.whole? <;> rfl

/-- A double is whole when its value is an integer. -/
theorem wholeValue?_eq_some_iff {n : Int} : wholeValue? x = some n ↔ x.value = n := by
  have nonnegative : (0 : ℚ) ≤ x.mantissa * 2 ^ x.exponent := by positivity
  simp only [value_eq, wholeValue?_eq, Option.map_eq_some_iff, whole?_eq_some_iff]
  generalize (x.mantissa * 2 ^ x.exponent : ℚ) = magnitude at *
  cases x.negative with
  | true =>
      simp only [if_true]
      constructor
      · rintro ⟨k, rfl, rfl⟩
        simp
      · intro equal
        rw [neg_one_mul, neg_eq_iff_eq_neg] at equal
        obtain ⟨k, negated⟩ := Int.eq_ofNat_of_zero_le (show 0 ≤ -n by
          rw [equal] at nonnegative
          exact_mod_cast nonnegative)
        refine ⟨k, ?_, by omega⟩
        rw [equal]
        exact_mod_cast negated
  | false =>
      simp only [Bool.false_eq_true, if_false]
      constructor
      · rintro ⟨k, rfl, rfl⟩
        simp
      · intro equal
        rw [one_mul] at equal
        obtain ⟨k, rfl⟩ := Int.eq_ofNat_of_zero_le (show 0 ≤ n by
          rw [equal] at nonnegative
          exact_mod_cast nonnegative)
        exact ⟨k, equal, rfl⟩

/-! ## Doubles of the same value -/

/-- Two doubles that differ at most in the sign of zero. -/
structure Alike (x y : Finite) : Prop where
  mantissa : x.mantissa = y.mantissa
  exponent : x.exponent = y.exponent
  negative : x.mantissa ≠ 0 → x.negative = y.negative

theorem Alike.eq (alike : Alike x y) (nonzero : x.mantissa ≠ 0) : x = y := by
  obtain ⟨sign, mantissa, exponent, canonical⟩ := x
  obtain ⟨otherSign, otherMantissa, otherExponent, otherCanonical⟩ := y
  cases alike.mantissa
  cases alike.exponent
  cases alike.negative nonzero
  rfl

theorem Alike.symm (alike : Alike x y) : Alike y x where
  mantissa := alike.mantissa.symm
  exponent := alike.exponent.symm
  negative nonzero := (alike.negative (alike.mantissa ▸ nonzero)).symm

/-- A quotient that is the magnitude of a double rounds to that double. -/
theorem round_of_eq {num den : Nat} (positive : 0 < den)
    (exact : (num / den : ℚ) = x.mantissa * 2 ^ x.exponent) (negative : Bool) :
    round negative num den = .finite ⟨negative, x.mantissa, x.exponent, x.canonical⟩ := by
  by_cases zero : x.mantissa = 0
  · have numZero : num = 0 := by
      rw [zero, Nat.cast_zero, zero_mul, div_eq_zero_iff] at exact
      simpa [positive.ne'] using exact
    rw [numZero, round_zero, ofParts_zero zero]
  · apply round_of_near zero positive
    rw [exact, sub_self, abs_zero, zero_mul]
    positivity

theorem abs_value (x : Finite) : |x.value| = x.mantissa * 2 ^ x.exponent := by
  have nonnegative : (0 : ℚ) ≤ x.mantissa * 2 ^ x.exponent := by positivity
  rw [value_eq]
  split
  · rw [neg_one_mul, abs_neg, abs_of_nonneg nonnegative]
  · rw [one_mul, abs_of_nonneg nonnegative]

/-- Doubles of the same value differ at most in the sign of zero. -/
theorem alike_of_value_eq (equal : x.value = y.value) : Alike x y := by
  have magnitudes : (x.mantissa * 2 ^ x.exponent : ℚ) = y.mantissa * 2 ^ y.exponent := by
    rw [← abs_value, ← abs_value, equal]
  have rounded := Binary64.finite.inj <|
    (round_of_eq (magnitude_den_pos x) (magnitude_div x) false).symm.trans
      (round_of_eq (magnitude_den_pos x) ((magnitude_div x).trans magnitudes) false)
  obtain ⟨-, mantissa, exponent⟩ := Finite.mk.inj rounded
  refine ⟨mantissa, exponent, ?_⟩
  intro nonzero
  have positive : (0 : ℚ) < x.mantissa * 2 ^ x.exponent := by positivity
  rw [value_eq, value_eq, ← magnitudes] at equal
  cases xSign : x.negative with
  | true =>
      cases ySign : y.negative with
      | true => rfl
      | false =>
          simp only [xSign, ySign, if_true, Bool.false_eq_true, if_false] at equal
          linarith
  | false =>
      cases ySign : y.negative with
      | true =>
          simp only [xSign, ySign, if_true, Bool.false_eq_true, if_false] at equal
          linarith
      | false => rfl

end Binary64.Finite

namespace Number

open Binary64 Text

/-! ## Integer numerals -/

theorem toList_intText (n : Int) :
    (intText n).toList = (if decide (n < 0) then ['-'] else []) ++ digitsText n.natAbs := by
  unfold intText
  by_cases below : n < 0 <;> simp [below]

theorem exists_digitsText_eq_cons (n : Nat) :
    ∃ first rest, digitsText n = first :: rest ∧ first.isDigit = true := by
  have isDigits : ∀ c ∈ digitsText n, c.isDigit = true := fun c => isDigit_of_mem_digitsText
  have nonempty : digitsText n ≠ [] := Nat.toDigits_ne_nil
  cases digits : digitsText n with
  | nil => contradiction
  | cons first rest => exact ⟨first, rest, rfl, isDigits first (by simp [digits])⟩

theorem takeSign_intText (n : Int) :
    takeSign (intText n).toList = (decide (n < 0), digitsText n.natAbs) := by
  obtain ⟨first, rest, digits, isDigit⟩ := exists_digitsText_eq_cons n.natAbs
  rw [toList_intText, digits, takeSign_signed isDigit]

theorem intText_injective {m n : Int} (equal : intText m = intText n) : m = n := by
  have signs := takeSign_intText m
  rw [equal, takeSign_intText, Prod.mk.injEq, decide_eq_decide] at signs
  have magnitudes := congrArg decimalValue signs.2
  rw [decimalValue_digitsText, decimalValue_digitsText] at magnitudes
  omega

/-- The text of a double that is written with its decimal is no integer numeral. -/
theorem doubleText_ne_intText (x : Finite) (n : Int) : doubleText (.finite x) ≠ intText n := by
  intro equal
  have plainChars : ∀ c ∈ (intText n).toList, c ≠ '.' ∧ c ≠ 'e' := by
    intro c member
    rw [toList_intText] at member
    rcases List.mem_append.mp member with sign | digit
    · have minus : c = '-' := by
        split at sign
        · exact List.mem_singleton.mp sign
        · contradiction
      rw [minus]
      decide
    · have isDigit := isDigit_of_mem_digitsText digit
      exact ⟨ne_of_isDigit isDigit '.' rfl, ne_of_isDigit isDigit 'e' rfl⟩
  have special : ∃ c ∈ (doubleText (.finite x)).toList, c = '.' ∨ c = 'e' := by
    unfold doubleText
    dsimp only
    split
    · exact ⟨'.', by simp, .inl rfl⟩
    · obtain ⟨c, member, isSpecial⟩ := exists_mem_text doubleLayout (shortest x)
      refine ⟨c, ?_, isSpecial⟩
      rw [String.toList_ofList]
      exact List.mem_append_right _ member
  obtain ⟨c, member, isSpecial⟩ := special
  rw [equal] at member
  obtain ⟨notPoint, notMark⟩ := plainChars c member
  rcases isSpecial with point | mark
  · exact notPoint point
  · exact notMark mark

/-! ## Texts -/

/-- Doubles are told by their texts. -/
theorem doubleText_injective {x y : Finite}
    (equal : doubleText (.finite x) = doubleText (.finite y)) : x = y := by
  have read := readDouble?_doubleText x
  rw [equal, readDouble?_doubleText] at read
  exact (Binary64.finite.inj (Option.some.inj read)).symm

/-- A number with a value is written as an integer numeral, or it is a double that is not
whole and is written as such. -/
theorem cssText_cases {number : Number} {v : ℚ} (hasValue : number.value? = some v) :
    (∃ n : Int, v = n ∧ number.cssText = intText n) ∨
      ∃ x : Finite, v = x.value ∧ (∀ n : Int, x.value ≠ n) ∧
        number.cssText = doubleText (.finite x) := by
  cases number with
  | int n =>
      cases hasValue
      exact .inl ⟨n, rfl, rfl⟩
  | double x =>
      cases x with
      | finite x =>
          cases hasValue
          cases whole : wholeValue? x with
          | some n =>
              refine .inl ⟨n, Finite.wholeValue?_eq_some_iff.mp whole, ?_⟩
              simp only [cssText, whole]
          | none =>
              refine .inr ⟨x, rfl, ?_, ?_⟩
              · intro n isWhole
                rw [Finite.wholeValue?_eq_some_iff.mpr isWhole] at whole
                contradiction
              · simp only [cssText, whole]
      | infinite negative => contradiction
      | nan => contradiction

/-- Numbers with values are written alike when the values are equal, and only then. -/
theorem cssText_eq_iff {a b : Number} {u v : ℚ} (hasValue : a.value? = some u)
    (otherHasValue : b.value? = some v) : a.cssText = b.cssText ↔ u = v := by
  rcases cssText_cases hasValue with ⟨m, rfl, aText⟩ | ⟨x, rfl, notWhole, aText⟩
  · rcases cssText_cases otherHasValue with ⟨n, rfl, bText⟩ | ⟨y, rfl, notWhole, bText⟩
    · rw [aText, bText, Rat.intCast_inj]
      exact ⟨intText_injective, congrArg intText⟩
    · rw [aText, bText]
      exact ⟨fun same => absurd same.symm (doubleText_ne_intText y m),
        fun same => absurd same.symm (notWhole m)⟩
  · rcases cssText_cases otherHasValue with ⟨n, rfl, bText⟩ | ⟨y, rfl, _, bText⟩
    · rw [aText, bText]
      exact ⟨fun same => absurd same (doubleText_ne_intText x n),
        fun same => absurd same (notWhole n)⟩
    · rw [aText, bText]
      constructor
      · intro same
        rw [doubleText_injective same]
      · intro same
        have nonzero : x.mantissa ≠ 0 := by
          intro zero
          apply notWhole 0
          simp [Finite.value_eq, zero]
        rw [(Finite.alike_of_value_eq same).eq nonzero]

theorem pixels_eq_iff {a b : Number} : a.pixels = b.pixels ↔ a.cssText = b.cssText := by
  unfold pixels
  rw [String.append_left_inj]

/-! ## Scaling -/

/-- A number with the value of a double has that double, but for the sign of zero. -/
theorem exists_alike_of_value? {number : Number} {x : Finite}
    (hasValue : number.value? = some x.value) :
    ∃ y : Finite, number.toBinary64? = some (.finite y) ∧ y.Alike x := by
  cases number with
  | int n =>
      have value : (n : ℚ) = x.value := Option.some.inj hasValue
      have magnitude : ((n.natAbs : Nat) : ℚ) / (1 : Nat) = x.mantissa * 2 ^ x.exponent := by
        rw [← Finite.abs_value, ← value, Nat.cast_natAbs, Int.cast_abs, Nat.cast_one, div_one]
      have rounded : Binary64.ofInt n =
          .finite ⟨n < 0, x.mantissa, x.exponent, x.canonical⟩ :=
        Finite.round_of_eq Nat.one_pos magnitude (n < 0)
      have found : (int n).toBinary64? =
          some (.finite ⟨n < 0, x.mantissa, x.exponent, x.canonical⟩) := by
        rw [toBinary64?, rounded]
      refine ⟨_, found, rfl, rfl, ?_⟩
      intro nonzero
      have nonzeroMantissa : x.mantissa ≠ 0 := nonzero
      have positive : (0 : ℚ) < x.mantissa * 2 ^ x.exponent := by positivity
      rw [Finite.value_eq] at value
      cases sign : x.negative with
      | true =>
          rw [sign, if_pos rfl, neg_one_mul] at value
          have below : (n : ℚ) < 0 := by linarith
          exact decide_eq_true (by exact_mod_cast below)
      | false =>
          rw [sign, if_neg Bool.false_ne_true, one_mul] at value
          have above : (0 : ℚ) < n := by linarith
          have notBelow : ¬n < 0 := not_lt.mpr (by exact_mod_cast above.le)
          exact decide_eq_false notBelow
  | double y =>
      cases y with
      | finite y => exact ⟨y, rfl, Finite.alike_of_value_eq (Option.some.inj hasValue)⟩
      | infinite negative => contradiction
      | nan => contradiction

/-- Both zeros are written as the integer. -/
theorem cssText_zero (negative : Bool) :
    (double (ofParts negative 0 (-1074))).cssText = intText 0 := by
  have canonical : Canonical 0 (-1074) := by decide
  have whole : wholeValue? ⟨negative, 0, -1074, canonical⟩ = some 0 := by
    apply Finite.wholeValue?_eq_some_iff.mpr
    simp [Finite.value_eq]
  rw [ofParts_of_canonical canonical]
  simp only [cssText, whole]

/-- A product is written alike for doubles that differ in the sign of zero. -/
theorem cssText_mul_of_alike {x y : Finite} (alike : x.Alike y) (scale : Binary64) :
    (double ((Binary64.finite x).mul scale)).cssText =
      (double ((Binary64.finite y).mul scale)).cssText := by
  by_cases zero : x.mantissa = 0
  · have otherZero : y.mantissa = 0 := alike.mantissa ▸ zero
    cases scale with
    | finite scale =>
        simp only [mul, Finite.magnitude, zero, otherZero, Nat.zero_mul, round_zero, cssText_zero]
    | infinite negative => simp only [mul, Finite.isZero, zero, otherZero]; rfl
    | nan => rfl
  · rw [alike.eq zero]

/-- Numbers of the same value are equal, or they have doubles that are alike. -/
theorem eq_or_exists_alike {a b : Number} {v : ℚ} (hasValue : a.value? = some v)
    (otherHasValue : b.value? = some v) :
    a = b ∨ ∃ x y : Finite, a.toBinary64? = some (.finite x) ∧
      b.toBinary64? = some (.finite y) ∧ x.Alike y := by
  cases a with
  | int m =>
      cases b with
      | int n =>
          have equal : (m : ℚ) = n := Option.some.inj (hasValue.trans otherHasValue.symm)
          exact .inl (congrArg int (Rat.intCast_inj.mp equal))
      | double y =>
          cases y with
          | finite y =>
              have value : (int m).value? = some y.value := hasValue.trans otherHasValue.symm
              obtain ⟨x, found, alike⟩ := exists_alike_of_value? value
              exact .inr ⟨x, y, found, rfl, alike⟩
          | infinite negative => contradiction
          | nan => contradiction
  | double x =>
      cases x with
      | finite x =>
          have value : b.value? = some x.value := otherHasValue.trans hasValue.symm
          obtain ⟨y, found, alike⟩ := exists_alike_of_value? value
          exact .inr ⟨x, y, rfl, found, alike.symm⟩
      | infinite negative => contradiction
      | nan => contradiction

end Number

end Typeset
