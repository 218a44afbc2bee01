import Typeset.Proofs.Number.CssText
import Typeset.Proofs.Number.Nearest
import Typeset.Proofs.Style.Renderable

/-!
# Numbers in a style sheet are exact

A whole number is written as the decimal numeral of its value, without point or exponent.
Every other double is written as a text that is no integer and whose exact value rounds to
the double.  Main statement: both, and that texts are equal where the values are.
-/

namespace Typeset.Number

open Binary64

/-! ## The values of texts -/

/-- The integer that digits after an optional sign stand for. -/
def integerValue? (text : List Char) : Option Int :=
  let (negative, digits) := takeSign text
  (digits? digits).map fun n : Nat => if negative then -(n : Int) else (n : Int)

/-- The exact value of a decimal text. -/
def exactValue? (text : List Char) : Option ℚ :=
  let (negative, body) := takeSign text
  (decimal? body).map fun decimal => signFactor negative * decimal.value

/-- The decimal numeral of an integer: its digits after a minus sign where it is negative. -/
structure NumeralOf (n : Int) (text : String) : Prop where
  /-- The text stands for the integer. -/
  value : integerValue? text.toList = some n
  /-- A sign is written for negative integers only, and it is a minus sign. -/
  sign : ∀ c ∈ text.toList, c.isDigit = true ∨ c = '-' ∧ n < 0
  /-- Only the numeral of zero, which is one digit, starts with the digit zero. -/
  leading : (takeSign text.toList).2.head? = some '0' → text = "0"

/-! ## Numerals -/

/-- Only zero starts with the digit zero. -/
theorem eq_zero_of_head?_digitsText {n : Nat} (zero : (digitsText n).head? = some '0') :
    n = 0 := by
  induction n using Nat.strong_induction_on with
  | _ n ih =>
      by_cases single : n < 10
      · have digit : digitsText n = [n.digitChar] := Nat.toDigits_of_lt_base single
        rw [digit, List.head?_cons, Option.some.injEq] at zero
        exact Nat.digitChar_eq_zero.mp zero
      · have cut : digitsText n = digitsText (n / 10) ++ [(n % 10).digitChar] :=
          Nat.toDigits_of_base_le (by decide) (by omega)
        have nonempty : digitsText (n / 10) ≠ [] := Nat.toDigits_ne_nil
        rw [cut, List.head?_append_of_ne_nil _ nonempty] at zero
        have shorter := ih (n / 10) (by omega) zero
        omega

theorem numeralOf_intText (n : Int) : NumeralOf n (intText n) where
  value := by
    have nonempty : digitsText n.natAbs ≠ [] := Nat.toDigits_ne_nil
    simp only [integerValue?, takeSign_intText,
      digits?_eq_some nonempty fun c => isDigit_of_mem_digitsText, decimalValue_digitsText,
      Option.map_some, decide_eq_true_iff, Option.some.injEq]
    split <;> omega
  sign := by
    intro c member
    rw [toList_intText, List.mem_append] at member
    rcases member with sign | digit
    · split at sign
      · rename_i below
        exact .inr ⟨List.mem_singleton.mp sign, of_decide_eq_true below⟩
      · contradiction
    · exact .inl (isDigit_of_mem_digitsText digit)
  leading := by
    rw [takeSign_intText]
    intro zero
    have absZero := eq_zero_of_head?_digitsText zero
    rw [Int.natAbs_eq_zero.mp absZero]
    rfl

/-! ## Decimals -/

theorem takeSign_doubleText {x : Finite} (nonzero : x.mantissa ≠ 0) :
    takeSign (doubleText (.finite x)).toList =
      (x.negative, (shortest x).text doubleLayout) := by
  have notZero : x.isZero = false := by simpa [Finite.isZero] using nonzero
  obtain ⟨first, rest, text, digit⟩ := exists_text_eq_cons doubleLayout (shortest x)
  simp only [doubleText, notZero, Bool.false_eq_true, if_false, String.toList_ofList, text]
  exact takeSign_signed digit x.negative rest

/-- A text with a point or an exponent is no integer. -/
theorem integerValue?_doubleText {x : Finite} (nonzero : x.mantissa ≠ 0) :
    integerValue? (doubleText (.finite x)).toList = none := by
  obtain ⟨c, member, isSpecial⟩ := exists_mem_text doubleLayout (shortest x)
  have notDigit : c.isDigit = false := by
    rcases isSpecial with rfl | rfl <;> rfl
  have other : (((shortest x).text doubleLayout).any fun c => !c.isDigit) = true :=
    List.any_eq_true.mpr ⟨c, member, by rw [notDigit]; rfl⟩
  simp only [integerValue?, takeSign_doubleText nonzero, digits?, other, Bool.or_true, if_true,
    Option.map_none]

/-- The text of a double has an exact value that rounds to the double. -/
theorem exists_exactValue?_doubleText {x : Finite} (nonzero : x.mantissa ≠ 0) :
    ∃ number, exactValue? (doubleText (.finite x)).toList = some number ∧
      RoundsTo number x := by
  obtain ⟨digits, reads⟩ := readsBack_iff.mp (readsBack_shortest nonzero)
  rw [Decimal.toBinary64_eq_round digits] at reads
  have nearest := roundsTo_of_round (wholePower_pos (by decide) _) reads
  rw [decimal_quotient] at nearest
  obtain ⟨decimal, found, value⟩ := Option.map_eq_some_iff.mp (value_text doubleLayout (shortest x))
  refine ⟨signFactor x.negative * (shortest x).value, ?_, nearest⟩
  simp only [exactValue?, takeSign_doubleText nonzero, found, Option.map_some, value]

/-! ## Numbers -/

theorem mantissa_ne_zero_of_not_whole {x : Finite} (notWhole : ∀ n : Int, x.value ≠ n) :
    x.mantissa ≠ 0 := by
  intro zero
  apply notWhole 0
  simp [Finite.value_eq, zero]

/-- A number of whole value is written as the numeral of its value. -/
theorem numeralOf_cssText {a : Number} {n : Int} (hasValue : a.value? = some n) :
    NumeralOf n a.cssText := by
  rcases cssText_cases hasValue with ⟨m, value, text⟩ | ⟨x, value, notWhole, -⟩
  · rw [text, Rat.intCast_inj.mp value]
    exact numeralOf_intText m
  · exact absurd value.symm (notWhole n)

/-- The number is a double that is not whole, and its text in a style sheet is no integer but a
decimal that rounds to it. -/
structure WrittenAsDecimal (a : Number) : Prop where
  notInteger : integerValue? a.cssText.toList = none
  rounds : ∃ x number, a = .double (.finite x) ∧ exactValue? a.cssText.toList = some number ∧
    RoundsTo number x

theorem writtenAsDecimal {a : Number} {u : ℚ} (hasValue : a.value? = some u)
    (notWhole : ∀ n : Int, u ≠ n) : WrittenAsDecimal a := by
  cases a with
  | int n => exact absurd (Option.some.inj hasValue).symm (notWhole n)
  | double x =>
      cases x with
      | finite x =>
          cases hasValue
          have none : wholeValue? x = none :=
            Option.eq_none_iff_forall_ne_some.mpr fun n whole =>
              notWhole n (Finite.wholeValue?_eq_some_iff.mp whole)
          have text : (double (.finite x)).cssText = doubleText (.finite x) := by
            simp only [cssText, none]
          have nonzero := mantissa_ne_zero_of_not_whole notWhole
          obtain ⟨number, exact, rounds⟩ := exists_exactValue?_doubleText nonzero
          exact ⟨by rw [text, integerValue?_doubleText nonzero],
            x, number, rfl, by rw [text, exact], rounds⟩
      | infinite negative => contradiction
      | nan => contradiction

/-- Numbers with values, of which the integers have no more digits than can be written, are
written in a style sheet: whole ones as the numeral of their value, others as a decimal that
rounds to them.  Two of them are written alike, alone and in pixels, exactly when they have the
same value. -/
theorem cssText_faithful {a : Number} {u : ℚ} (hasValue : a.value? = some u)
    (writable : a.isWritable = true) :
    Style.requireWritable [a] = .ok () ∧
      (∀ n : Int, u = n → NumeralOf n a.cssText) ∧
      ((∀ n : Int, u ≠ n) → WrittenAsDecimal a) ∧
      ∀ (b : Number) (v : ℚ), b.value? = some v → b.isWritable = true →
        (a.cssText = b.cssText ↔ u = v) ∧ (a.pixels = b.pixels ↔ u = v) := by
  refine ⟨?_, ?_, writtenAsDecimal hasValue, ?_⟩
  · apply Style.requireWritable_eq_ok_iff.mpr
    intro number member
    rwa [List.mem_singleton.mp member]
  · rintro n rfl
    exact numeralOf_cssText hasValue
  · intro b v otherHasValue _
    have texts := cssText_eq_iff hasValue otherHasValue
    exact ⟨texts, pixels_eq_iff.trans texts⟩

/-- The double nearest to 22.4 is no integer and keeps its one decimal; the double of `10 ^ 22`
is written with all its digits, as the integer of that value is. -/
theorem cssText_faithful_tenths :
    let fraction := double (.finite ⟨false, 6305039478318694, -48, by decide⟩)
    let large := double (.finite ⟨false, 4768371582031250, 21, by decide⟩)
    WrittenAsDecimal fraction ∧ fraction.cssText = "22.4" ∧
      NumeralOf (10 ^ 22) large.cssText ∧ large.pixels = (int (10 ^ 22)).pixels ∧
      fraction.cssText ≠ large.cssText := by
  intro fraction large
  have fractionValue : fraction.value? = some (6305039478318694 / 2 ^ 48) := by
    norm_num [fraction, value?, Finite.value, coefficient]
  have largeValue : large.value? = some ((10 ^ 22 : Int) : ℚ) := by
    norm_num [large, value?, Finite.value, coefficient]
  obtain ⟨-, -, decimal, told⟩ := cssText_faithful fractionValue rfl
  obtain ⟨-, numeral, -, same⟩ := cssText_faithful largeValue rfl
  have notWhole : ∀ n : Int, (6305039478318694 / 2 ^ 48 : ℚ) ≠ n := by
    intro n equal
    have product : (6305039478318694 : ℚ) = (n * 2 ^ 48 : Int) := by
      push_cast
      rw [← equal]
      norm_num
    have whole : (6305039478318694 : Int) = n * 2 ^ 48 := by exact_mod_cast product
    omega
  refine ⟨decimal notWhole, by decide +kernel, numeral _ rfl,
    (same (int (10 ^ 22)) _ rfl (by decide +kernel)).2.mpr rfl, ?_⟩
  intro equal
  exact notWhole _ ((told large _ largeValue rfl).1.mp equal)

end Typeset.Number
