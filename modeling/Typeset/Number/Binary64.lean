import Typeset.Number.Rational

/-!
# Double precision numbers

A finite double is a sign, a mantissa below `2 ^ 53` and an exponent of two.
The representation is canonical, so two finite doubles are equal exactly when
their fields are; the two zeros differ in sign.  All arithmetic is exact on
natural numbers and rounds once, to nearest, ties to even.
-/

namespace Typeset

namespace Binary64

/-- The least mantissa that uses all 53 bits, `2 ^ 52`. -/
abbrev leadingBit : Nat := 4503599627370496

/-- Mantissa and exponent in the one form that a double has: the mantissa uses
all 53 bits unless the exponent is the least one. -/
def Canonical (mantissa : Nat) (exponent : Int) : Prop :=
  mantissa < 2 * leadingBit ∧ -1074 ≤ exponent ∧ exponent ≤ 971 ∧
    (exponent = -1074 ∨ leadingBit ≤ mantissa)

instance (mantissa : Nat) (exponent : Int) : Decidable (Canonical mantissa exponent) := by
  unfold Canonical
  infer_instance

/-- A finite double, of value `mantissa * 2 ^ exponent` up to its sign. -/
structure Finite where
  negative : Bool
  mantissa : Nat
  exponent : Int
  canonical : Canonical mantissa exponent
  deriving DecidableEq

end Binary64

/-- A double: finite, infinite or not a number. -/
inductive Binary64 where
  | finite (value : Binary64.Finite)
  | infinite (negative : Bool)
  | nan
  deriving DecidableEq

namespace Binary64

/-- The double with the given parts; parts that fit no finite double overflow. -/
def ofParts (negative : Bool) (mantissa : Nat) (exponent : Int) : Binary64 :=
  if canonical : Canonical mantissa exponent then
    .finite ⟨negative, mantissa, exponent, canonical⟩
  else
    .infinite negative

/-- The exponent of the leading bit of a positive quotient. -/
def leadingExponent (num den : Nat) : Int :=
  let guess : Int := (num.log2 : Int) - den.log2
  if num * Number.wholePower 2 (-guess) < den * Number.wholePower 2 guess then guess - 1
  else guess

/-- The double nearest to `num / den`, ties to even. -/
def round (negative : Bool) (num den : Nat) : Binary64 :=
  let exponent := max (-1074) (leadingExponent num den - 52)
  let mantissa :=
    Number.roundQuotient (num * Number.wholePower 2 (-exponent))
      (den * Number.wholePower 2 exponent)
  if mantissa = 0 then ofParts negative 0 (-1074)
  else if mantissa = 2 * leadingBit then ofParts negative leadingBit (exponent + 1)
  else ofParts negative mantissa exponent

/-- The double nearest to an integer. -/
def ofInt (n : Int) : Binary64 :=
  round (n < 0) n.natAbs 1

/-- The double nearest to `digits * 10 ^ power`.  Powers far outside the range
of doubles are cut short, which does not change the result. -/
def ofDecimal (negative : Bool) (digits : Nat) (power : Int) : Binary64 :=
  if digits = 0 then round negative 0 1
  else if power > 400 then .infinite negative
  else
    let length : Int := (Nat.toDigits 10 digits).length
    if length + power < -400 then round negative 0 1
    else
      round negative (digits * Number.wholePower 10 power) (Number.wholePower 10 (-power))

namespace Finite

/-- The value of a finite double as a quotient, without its sign. -/
def magnitude (x : Finite) : Nat × Nat :=
  (x.mantissa * Number.wholePower 2 x.exponent, Number.wholePower 2 (-x.exponent))

/-- The value of a finite double that is whole, without its sign. -/
def whole? (x : Finite) : Option Nat :=
  let (num, den) := x.magnitude
  if num % den = 0 then some (num / den) else none

/-- A zero of either sign. -/
def isZero (x : Finite) : Bool :=
  x.mantissa == 0

end Finite

/-- Neither infinite nor undefined. -/
def isFinite : Binary64 → Bool
  | .finite _ => true
  | _ => false

/-- Product of two doubles, rounded once. -/
def mul : Binary64 → Binary64 → Binary64
  | .finite x, .finite y =>
      let (xNum, xDen) := x.magnitude
      let (yNum, yDen) := y.magnitude
      round (x.negative != y.negative) (xNum * yNum) (xDen * yDen)
  | .infinite s, .infinite t => .infinite (s != t)
  | .infinite s, .finite y => if y.isZero then .nan else .infinite (s != y.negative)
  | .finite x, .infinite t => if x.isZero then .nan else .infinite (x.negative != t)
  | .nan, _ => .nan
  | _, .nan => .nan

/-- The whole part of a finite double, rounded towards zero. -/
def Finite.truncate (x : Finite) : Int :=
  let (num, den) := x.magnitude
  if x.negative then -((num / den : Nat) : Int) else (num / den : Nat)

end Binary64

end Typeset
