import Typeset.Number.Basic

/-!
# Faults in JSON texts

A fault names what was expected and the position at which it was not found.
Messages give the position as a line, a column and a count of characters, except
for an integer that is too long.
-/

namespace Typeset.Json

/-- What is wrong with a JSON text. -/
inductive Problem where
  | byteOrderMark
  | noValue
  | noPropertyName
  | noColon
  | noComma
  | extraData
  | openText
  | controlCharacter
  | badEscape
  | badCodeEscape
  /-- An integer has more digits than are read. -/
  | tooManyDigits (count : Nat)
  deriving DecidableEq, Repr

/-- A problem and the number of characters before it. -/
structure Fault where
  problem : Problem
  position : Nat
  deriving DecidableEq, Repr

/-- The wording of a problem. -/
def Problem.message : Problem → String
  | byteOrderMark => "Unexpected UTF-8 BOM (decode using utf-8-sig)"
  | noValue => "Expecting value"
  | noPropertyName => "Expecting property name enclosed in double quotes"
  | noColon => "Expecting ':' delimiter"
  | noComma => "Expecting ',' delimiter"
  | extraData => "Extra data"
  | openText => "Unterminated string starting at"
  | controlCharacter => "Invalid control character at"
  | badEscape => "Invalid \\escape"
  | badCodeEscape => "Invalid \\uXXXX escape"
  | tooManyDigits count => Number.digitLimitText count

/-- The line of a position, counted from one. -/
def lineOf (text : List Char) (position : Nat) : Nat :=
  (text.take position).count '\n' + 1

/-- The column of a position, counted from one. -/
def columnOf (text : List Char) (position : Nat) : Nat :=
  ((text.take position).reverse.takeWhile (· != '\n')).length + 1

/-- The wording of a fault in a text. -/
def Fault.message (fault : Fault) (text : List Char) : String :=
  let count (n : Nat) : String := Number.intText n
  match fault.problem with
  | .tooManyDigits _ => fault.problem.message
  | problem =>
      problem.message ++ ": line " ++ count (lineOf text fault.position) ++ " column " ++
        count (columnOf text fault.position) ++ " (char " ++ count fault.position ++ ")"

end Typeset.Json
