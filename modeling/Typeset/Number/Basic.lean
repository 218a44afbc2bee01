import Typeset.Number.Shortest

/-!
# Numbers

A setting of length is an integer of any size or a double, and the two are kept
apart: `16` and `16.0` are written differently where a value is quoted, but name
the same length in a style sheet.  Comparison is exact in all cases.
-/

namespace Typeset

/-- An integer or a double. -/
inductive Number where
  | int (value : Int)
  | double (value : Binary64)
  deriving DecidableEq

namespace Number

/-- The digits of an integer, with its sign. -/
def intText (n : Int) : String :=
  let digits := String.ofList (digitsText n.natAbs)
  if n < 0 then "-" ++ digits else digits

/-- An integer with more digits is neither read nor written. -/
def digitLimit : Nat :=
  4300

/-- What refusals for the number of an integer's digits begin with. -/
def digitLimitStart : String :=
  "Exceeds the limit (" ++ intText digitLimit ++ " digits) for integer string conversion"

/-- What refusals for the number of an integer's digits end with. -/
def digitLimitEnd : String :=
  "; use sys.set_int_max_str_digits() to increase the limit"

/-- The wording of the refusal to read an integer of so many digits. -/
def digitLimitText (count : Nat) : String :=
  digitLimitStart ++ ": value has " ++ intText count ++ " digits" ++ digitLimitEnd

/-- The wording of the refusal to write an integer. -/
def unwritableText : String :=
  digitLimitStart ++ digitLimitEnd

/-- Whether a number can be written: an integer must not have too many digits. -/
def isWritable : Number → Bool
  | .int n => (digitsText n.natAbs).length ≤ digitLimit
  | .double _ => true

/-- A number below a power of ten has no more digits than the exponent says. -/
theorem length_digitsText_le_iff {n limit : Nat} (positive : 0 < limit) :
    (digitsText n).length ≤ limit ↔ n < wholePower 10 limit :=
  Nat.length_toDigits_le_iff (by decide) positive

/-- An integer with few digits can be written. -/
theorem isWritable_int_iff {n : Int} :
    (int n).isWritable = true ↔ n.natAbs < wholePower 10 digitLimit := by
  rw [isWritable, decide_eq_true_iff]
  exact length_digitsText_le_iff (by decide)

/-- An integer of at most nine digits can be written. -/
theorem isWritable_of_natAbs_lt {n : Int} (short : n.natAbs < 1000000000) :
    (int n).isWritable = true := by
  have nineDigits : wholePower 10 9 = 1000000000 := rfl
  have fewer : wholePower 10 9 ≤ wholePower 10 digitLimit :=
    wholePower_mono (by decide) (by decide)
  rw [isWritable_int_iff]
  exact Nat.lt_of_lt_of_le (nineDigits ▸ short) fewer

/-- A number as it is quoted in messages. -/
def text : Number → String
  | .int n => intText n
  | .double x => doubleText x

/-- A finite double with its sign, when it is whole. -/
def wholeValue? (x : Binary64.Finite) : Option Int :=
  x.whole?.map fun n => if x.negative then -(n : Int) else n

/-- A number in a style sheet: whole numbers have neither point nor exponent. -/
def cssText : Number → String
  | .int n => intText n
  | .double (.finite x) =>
      match wholeValue? x with
      | some n => intText n
      | none => doubleText (.finite x)
  | .double x => doubleText x

/-- A length in pixels. -/
def pixels (number : Number) : String :=
  number.cssText ++ "px"

/-- The double nearest to a number; an integer that rounds beyond the largest
double has none. -/
def toBinary64? : Number → Option Binary64
  | .double x => some x
  | .int n =>
      match Binary64.ofInt n with
      | .infinite _ => none
      | x => some x

/-! ## Comparison -/

/-- The integer `coefficient * 2 ^ exponent`, scaled to the exponent `base`. -/
def scaleTo (base : Int) (coefficient exponent : Int) : Int :=
  coefficient * (wholePower 2 (exponent - base) : Nat)

/-- A finite double as a signed coefficient and an exponent of two. -/
def coefficient (x : Binary64.Finite) : Int :=
  if x.negative then -(x.mantissa : Int) else x.mantissa

/-- Exact comparison of two values of the form `coefficient * 2 ^ exponent`. -/
def scaledLe (a b : Int × Int) : Bool :=
  let base := min a.2 b.2
  scaleTo base a.1 a.2 ≤ scaleTo base b.1 b.2

/-- Exact comparison; false when either side is not a number. -/
def le (a b : Number) : Bool :=
  match a, b with
  | .int m, .int n => m ≤ n
  | .int m, .double (.finite y) => scaledLe (m, 0) (coefficient y, y.exponent)
  | .double (.finite x), .int n => scaledLe (coefficient x, x.exponent) (n, 0)
  | .double (.finite x), .double (.finite y) =>
      scaledLe (coefficient x, x.exponent) (coefficient y, y.exponent)
  | .double .nan, _ => false
  | _, .double .nan => false
  | .double (.infinite true), _ => true
  | _, .double (.infinite false) => true
  | .double (.infinite false), _ => false
  | _, .double (.infinite true) => false

/-- Between two integers, both included. -/
def within (low high : Int) (number : Number) : Bool :=
  le (.int low) number && le number (.int high)

end Number

end Typeset
