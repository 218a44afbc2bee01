import Typeset.Number.Binary64

/-!
# Shortest decimal text of a double

A double is printed with the fewest significant digits that read back as the
same double.  For each number of digits the two decimals around the value are
tried; the first count with a decimal that reads back wins.  Of two such
decimals the nearer one is taken, and on a tie the one that ends in an even
digit.
-/

namespace Typeset.Number

/-- A positive decimal `digits * 10 ^ power`. -/
structure Decimal where
  digits : Nat
  power : Int
  deriving DecidableEq

namespace Decimal

/-- The double nearest to a decimal. -/
def toBinary64 (decimal : Decimal) (negative : Bool) : Binary64 :=
  Binary64.ofDecimal negative decimal.digits decimal.power

/-- Drop the zeros at the end of the digits; `fuel` bounds their number. -/
def dropZeros : Nat → Decimal → Decimal
  | 0, decimal => decimal
  | fuel + 1, decimal =>
      if decimal.digits ≠ 0 ∧ decimal.digits % 10 = 0 then
        dropZeros fuel ⟨decimal.digits / 10, decimal.power + 1⟩
      else
        decimal

end Decimal

/-- The number of digits before the point; for a value below one, minus the
number of zeros after it.  The factor makes every positive double at least
one. -/
def wholeDigits (num den : Nat) : Int :=
  (Nat.toDigits 10 (num * wholePower 10 400 / den)).length - 400

/-- The decimal with the last digit at `10 ^ power` that lies next to the value
and reads back as `x`, if there is one. -/
def neighbour? (x : Binary64.Finite) (power : Int) : Option Decimal :=
  let (num, den) := x.magnitude
  let scaledNum := num * wholePower 10 (-power)
  let scaledDen := den * wholePower 10 power
  let floor := scaledNum / scaledDen
  let below : Decimal := ⟨floor, power⟩
  let above : Decimal := ⟨floor + 1, power⟩
  let readsBack (decimal : Decimal) : Bool :=
    decimal.digits ≠ 0 && decimal.toBinary64 x.negative == .finite x
  let nearer : Decimal := ⟨roundQuotient scaledNum scaledDen, power⟩
  if readsBack below && readsBack above then some nearer
  else if readsBack below then some below
  else if readsBack above then some above
  else none

/-- Search the digit counts from `17 - remaining` on. -/
def searchDigits (x : Binary64.Finite) (whole : Int) : Nat → Decimal
  | 0 => (neighbour? x (whole - 17)).getD ⟨0, 0⟩
  | remaining + 1 =>
      match neighbour? x (whole - (16 - remaining : Nat)) with
      | some decimal => decimal
      | none => searchDigits x whole remaining

/-- The shortest decimal that reads back as a positive double. -/
def shortest (x : Binary64.Finite) : Decimal :=
  let (num, den) := x.magnitude
  (searchDigits x (wholeDigits num den) 16).dropZeros 20

/-- Where a decimal is written positionally, and how otherwise. -/
structure Layout where
  /-- The least exponent of the leading digit that is written positionally. -/
  least : Int
  /-- The first exponent of the leading digit that is not. -/
  limit : Int
  /-- The least number of digits of a written exponent. -/
  exponentDigits : Nat

/-- Doubles are written positionally from `0.0001` up to below `10 ^ 16`, and
with an exponent of two digits or more otherwise. -/
def doubleLayout : Layout :=
  ⟨-4, 16, 2⟩

/-- The digits of a natural number. -/
def digitsText (n : Nat) : List Char :=
  Nat.toDigits 10 n

/-- An exponent with its sign, padded with zeros. -/
def exponentText (layout : Layout) (exponent : Int) : List Char :=
  let digits := digitsText exponent.natAbs
  let sign := if exponent < 0 then '-' else '+'
  'e' :: sign :: (List.replicate (layout.exponentDigits - digits.length) '0' ++ digits)

/-- A decimal in a layout.  Positional text has a digit on both sides of the
point. -/
def Decimal.text (layout : Layout) (decimal : Decimal) : List Char :=
  let digits := digitsText decimal.digits
  let leading : Int := digits.length + decimal.power - 1
  if layout.least ≤ leading ∧ leading < layout.limit then
    if 0 ≤ decimal.power then
      digits ++ List.replicate decimal.power.toNat '0' ++ ['.', '0']
    else if 0 ≤ leading then
      let before := (leading + 1).toNat
      digits.take before ++ '.' :: digits.drop before
    else
      '0' :: '.' :: (List.replicate (-leading - 1).toNat '0' ++ digits)
  else
    match digits with
    | [] => []
    | [digit] => digit :: exponentText layout leading
    | first :: others => first :: '.' :: (others ++ exponentText layout leading)

/-- The text of a double: the shortest decimal, `inf` or `nan`. -/
def doubleText : Binary64 → String
  | .finite x =>
      let sign := if x.negative then ['-'] else []
      if x.isZero then String.ofList (sign ++ ['0', '.', '0'])
      else String.ofList (sign ++ (shortest x).text doubleLayout)
  | .infinite negative => if negative then "-inf" else "inf"
  | .nan => "nan"

end Typeset.Number
