import Typeset.Number.Basic
import Typeset.Text.AsciiDigit
import Typeset.Text.Blank
import Typeset.Text.DecimalDigit

/-!
# Reading numbers

The text of a number may be padded with white space, may use the digits of any
script and may separate digits by single underscores.  Doubles also have the
names `inf`, `infinity` and `nan` in any case.
-/

namespace Typeset.Number

open Typeset.Text

/-- A digit of any script in its ASCII form; other characters are kept. -/
def asciiDigit (c : Char) : Char :=
  match decimalDigit? c with
  | some digit => Char.ofNat (0x30 + digit)
  | none => c

/-- The text without padding and with ASCII digits. -/
def plain (text : List Char) : List Char :=
  (trim isPadding text).map asciiDigit

/-- Remove underscores that stand between two digits; any other underscore is
refused.  `afterDigit` tells whether the previous character was a digit. -/
def dropUnderscores (afterDigit : Bool) : List Char → Option (List Char)
  | [] => some []
  | '_' :: next :: rest =>
      if afterDigit && next.isDigit then
        (dropUnderscores true rest).map (next :: ·)
      else
        none
  | c :: rest =>
      if c == '_' then none else (dropUnderscores c.isDigit rest).map (c :: ·)

/-- The value of a text that consists of one digit or more. -/
def digits? (text : List Char) : Option Nat :=
  if text.isEmpty || text.any fun c => !c.isDigit then none
  else some (decimalValue text)

/-- A leading sign, true for minus, and the text after it. -/
def takeSign : List Char → Bool × List Char
  | '-' :: rest => (true, rest)
  | '+' :: rest => (false, rest)
  | text => (false, text)

/-- Why a text was not read as an integer. -/
inductive IntegerFault where
  | malformed
  | tooManyDigits (count : Nat)
  deriving DecidableEq

/-- Read an integer.  Its digits are counted before what follows them is looked
at. -/
def readInt (text : List Char) : Except IntegerFault Int :=
  let (negative, body) := takeSign (plain text)
  let run := body.takeWhile fun c => c.isDigit || c == '_'
  match dropUnderscores false run with
  | none => .error .malformed
  | some digits =>
      if digitLimit < digits.length then .error (.tooManyDigits digits.length)
      else if run.length < body.length then .error .malformed
      else
        match digits? digits with
        | some value => .ok (if negative then -(value : Int) else value)
        | none => .error .malformed

/-- Digits around an optional point, with the number of them after it; at least
one digit is needed. -/
def readMantissa? (text : List Char) : Option (Nat × Nat) :=
  let before := text.takeWhile (· != '.')
  let after := (text.dropWhile (· != '.')).drop 1
  (digits? (before ++ after)).map fun value => (value, after.length)

/-- Read a finite decimal without sign. -/
def readDecimal? (negative : Bool) (text : List Char) : Option Binary64 := do
  let isMark (c : Char) : Bool := c == 'e' || c == 'E'
  let (value, places) ← readMantissa? (text.takeWhile fun c => !isMark c)
  match text.dropWhile fun c => !isMark c with
  | [] => return Binary64.ofDecimal negative value (-places)
  | _ :: exponentText =>
      let (minus, exponentDigits) := takeSign exponentText
      let size ← digits? exponentDigits
      let exponent : Int := if minus then -(size : Int) else size
      return Binary64.ofDecimal negative value (exponent - places)

/-- Read a double. -/
def readDouble? (text : List Char) : Option Binary64 := do
  let bare ← dropUnderscores false (plain text)
  let (negative, body) := takeSign bare
  match String.ofList (body.map Char.toLower) with
  | "inf" => return .infinite negative
  | "infinity" => return .infinite negative
  | "nan" => return .nan
  | _ => readDecimal? negative body

end Typeset.Number
