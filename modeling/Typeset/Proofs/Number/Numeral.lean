import Typeset.Number.Basic

/-!
# The characters of numbers

The text of every number consists of letters, digits, signs and points.  Hence it
holds nothing that is special where it is written.
-/

namespace Typeset.Number

/-- Whether a character may stand in the text of a number. -/
def isNumeralChar (c : Char) : Bool :=
  c.isAlphanum || c == '-' || c == '+' || c == '.'

/-- Whether all characters of a text may stand in the text of a number. -/
def isNumeral (text : String) : Bool :=
  text.toList.all isNumeralChar

@[simp]
theorem isNumeral_append (first second : String) :
    isNumeral (first ++ second) = (isNumeral first && isNumeral second) := by
  simp [isNumeral]

@[simp]
theorem isNumeral_ofList (text : List Char) :
    isNumeral (String.ofList text) = text.all isNumeralChar := by
  simp [isNumeral]

/-- The text of a number holds no other character. -/
theorem beq_eq_false_of_isNumeralChar {c : Char} (numeral : isNumeralChar c = true)
    (special : Char) (notNumeral : isNumeralChar special = false) : (c == special) = false := by
  apply beq_false_of_ne
  rintro rfl
  simp [numeral] at notNumeral

theorem all_isNumeralChar_digitsText (n : Nat) : (digitsText n).all isNumeralChar = true := by
  apply List.all_eq_true.mpr
  intro c member
  have digit : c.isDigit = true :=
    Nat.isDigit_of_mem_toDigits (by decide) (by decide) member
  simp [isNumeralChar, Char.isAlphanum, digit]

theorem isNumeral_intText (n : Int) : isNumeral (intText n) = true := by
  have minus : isNumeral "-" = true := by decide
  unfold intText
  split
  · simp [minus, all_isNumeralChar_digitsText]
  · simp [all_isNumeralChar_digitsText]

theorem all_isNumeralChar_exponentText (layout : Layout) (exponent : Int) :
    (exponentText layout exponent).all isNumeralChar = true := by
  have sign : isNumeralChar (if exponent < 0 then '-' else '+') = true := by
    split <;> rfl
  have letter : isNumeralChar 'e' = true := rfl
  have zero : isNumeralChar '0' = true := rfl
  simp [exponentText, sign, letter, zero, all_isNumeralChar_digitsText]

theorem all_isNumeralChar_decimalText (layout : Layout) (decimal : Decimal) :
    (decimal.text layout).all isNumeralChar = true := by
  have zero : isNumeralChar '0' = true := rfl
  have point : isNumeralChar '.' = true := rfl
  have digits := all_isNumeralChar_digitsText decimal.digits
  have cut : ∀ count, ((digitsText decimal.digits).take count).all isNumeralChar = true ∧
      ((digitsText decimal.digits).drop count).all isNumeralChar = true := by
    intro count
    rw [← Bool.and_eq_true_iff, ← List.all_append, List.take_append_drop]
    exact digits
  unfold Decimal.text
  dsimp only
  split
  · split
    · simp [digits, zero, point]
    · split
      · rw [List.all_append, List.all_cons, (cut _).1, (cut _).2, point]
        rfl
      · simp [digits, zero, point]
  · split
    · rfl
    · simp_all [all_isNumeralChar_exponentText]
    · simp_all [all_isNumeralChar_exponentText]

theorem isNumeral_doubleText (x : Binary64) : isNumeral (doubleText x) = true := by
  cases x with
  | finite x =>
      have sign : (if x.negative then ['-'] else []).all isNumeralChar = true := by
        split <;> rfl
      unfold doubleText
      dsimp only
      split
      · rw [isNumeral_ofList, List.all_append, sign]
        rfl
      · simp [sign, all_isNumeralChar_decimalText]
  | infinite negative => cases negative <;> decide
  | nan => decide

theorem isNumeral_cssText (number : Number) : isNumeral number.cssText = true := by
  cases number with
  | int n => exact isNumeral_intText n
  | double x =>
      cases x with
      | finite x =>
          cases whole : wholeValue? x with
          | some n => simpa [cssText, whole] using isNumeral_intText n
          | none => simpa [cssText, whole] using isNumeral_doubleText (.finite x)
      | infinite negative => exact isNumeral_doubleText _
      | nan => exact isNumeral_doubleText _

theorem isNumeral_pixels (number : Number) : isNumeral number.pixels = true := by
  have unit : isNumeral "px" = true := by decide
  simp [pixels, isNumeral_cssText, unit]

end Typeset.Number
