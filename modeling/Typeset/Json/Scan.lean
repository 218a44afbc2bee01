import Typeset.Json.Fault
import Typeset.Text.AsciiDigit

/-!
# Scanning JSON strings and numbers

Scanners read from a cursor, which holds the characters to come and the number
of those already read.
-/

namespace Typeset.Json

/-- A place in a text. -/
structure Cursor where
  position : Nat
  rest : List Char

namespace Cursor

/-- Move past `count` characters. -/
def skip (cursor : Cursor) (count : Nat) : Cursor :=
  ⟨cursor.position + count, cursor.rest.drop count⟩

/-- A problem at the cursor. -/
def fail {α : Type} (cursor : Cursor) (problem : Problem) : Except Fault α :=
  .error ⟨problem, cursor.position⟩

/-- The four characters that may stand between tokens. -/
def isSpace (c : Char) : Bool :=
  c == ' ' || c == '\t' || c == '\n' || c == '\r'

/-- Move past white space. -/
def skipSpace (cursor : Cursor) : Cursor :=
  cursor.skip (cursor.rest.takeWhile isSpace).length

/-- Move past a given text, if it comes next. -/
def expect? (cursor : Cursor) (text : String) : Option Cursor :=
  if text.toList.isPrefixOf cursor.rest then some (cursor.skip text.length) else none

end Cursor

/-! ## Strings -/

/-- The value of four hexadecimal digits. -/
def hexCode? (a b c d : Char) : Option Nat :=
  let digits := [a, b, c, d]
  if digits.all fun digit => (Text.hexDigit? digit).isSome then some (Text.hexValue digits)
  else none

/-- The character that a one-letter escape stands for. -/
def simpleEscape? (c : Char) : Option Char :=
  match c with
  | '\x22' => some '\x22'
  | '\\' => some '\\'
  | '/' => some '/'
  | 'b' => some (Char.ofNat 8)
  | 'f' => some (Char.ofNat 12)
  | 'n' => some '\n'
  | 'r' => some '\r'
  | 't' => some '\t'
  | _ => none

/-- The character of a code; a surrogate that stands alone is replaced. -/
def codeChar (code : Nat) : Char :=
  if 0xD800 ≤ code && code ≤ 0xDFFF then Char.ofNat 0xFFFD else Char.ofNat code

/-- The second half of a surrogate pair, when it follows and a character comes
after it: an escape whose code is in the low half, with the text after it. -/
inductive LowHalf where
  /-- No escape follows, or the pair is cut off by the end of the text. -/
  | absent
  /-- An escape follows whose digits are not hexadecimal. -/
  | malformed
  /-- An escape follows that does not complete the pair. -/
  | unrelated
  /-- The pair is complete. -/
  | found (code : Nat)

/-- Look for the second half of a surrogate pair. -/
def lowHalf : List Char → LowHalf
  | '\\' :: 'u' :: a :: b :: c :: d :: _ :: _ =>
      match hexCode? a b c d with
      | none => .malformed
      | some code => if 0xDC00 ≤ code && code ≤ 0xDFFF then .found code else .unrelated
  | _ => .absent

/-- Read a string up to its closing quote.  `opening` is the position of the
opening quote and `fuel` bounds the number of characters. -/
def scanText (opening : Nat) : Nat → Cursor → Except Fault (List Char × Cursor)
  | 0, _ => .error ⟨.openText, opening⟩
  | fuel + 1, cursor =>
      match cursor.rest with
      | [] => .error ⟨.openText, opening⟩
      | '\x22' :: _ => .ok ([], cursor.skip 1)
      | '\\' :: rest =>
          match rest with
          | [] => .error ⟨.openText, opening⟩
          | 'u' :: a :: b :: c :: d :: after :: others =>
              match hexCode? a b c d with
              | none => (cursor.skip 1).fail .badCodeEscape
              | some code =>
                  if 0xD800 ≤ code && code ≤ 0xDBFF then
                    match lowHalf (after :: others) with
                    | .malformed => (cursor.skip 7).fail .badCodeEscape
                    | .found low => do
                        let (chars, final) ← scanText opening fuel (cursor.skip 12)
                        let joined := 0x10000 + (code - 0xD800) * 0x400 + (low - 0xDC00)
                        return (Char.ofNat joined :: chars, final)
                    | _ => do
                        let (chars, final) ← scanText opening fuel (cursor.skip 6)
                        return (codeChar code :: chars, final)
                  else do
                    let (chars, final) ← scanText opening fuel (cursor.skip 6)
                    return (codeChar code :: chars, final)
          | 'u' :: _ => (cursor.skip 1).fail .badCodeEscape
          | letter :: _ =>
              match simpleEscape? letter with
              | none => cursor.fail .badEscape
              | some c => do
                  let (chars, final) ← scanText opening fuel (cursor.skip 2)
                  return (c :: chars, final)
      | c :: _ =>
          if c.toNat < 0x20 then cursor.fail .controlCharacter
          else do
            let (chars, final) ← scanText opening fuel (cursor.skip 1)
            return (c :: chars, final)

/-! ## Numbers -/

/-- The whole part of a number: a lone zero, or digits that start with another
digit. -/
def wholePart? : List Char → Option (List Char)
  | [] => none
  | first :: rest =>
      if first == '0' then some ['0']
      else if first.isDigit then some (first :: rest.takeWhile Char.isDigit)
      else none

/-- The digits after a point, if there are any. -/
def fractionPart : List Char → List Char
  | '.' :: rest => rest.takeWhile Char.isDigit
  | _ => []

/-- An exponent: the number of characters it takes and its value. -/
def exponentPart : List Char → Option (Nat × Int)
  | mark :: rest =>
      if mark == 'e' || mark == 'E' then
        let (signs, negative) : Nat × Bool :=
          match rest with
          | '-' :: _ => (1, true)
          | '+' :: _ => (1, false)
          | _ => (0, false)
        let digits := (rest.drop signs).takeWhile Char.isDigit
        if digits.isEmpty then none
        else
          let value : Int := Text.decimalValue digits
          some (1 + signs + digits.length, if negative then -value else value)
      else none
  | [] => none

/-- Read a number.  A fraction or an exponent makes it a double; an integer may
have too many digits. -/
def scanNumber? (cursor : Cursor) : Option (Except Fault (Number × Cursor)) := do
  let (negative, signs) : Bool × Nat :=
    match cursor.rest with
    | '-' :: _ => (true, 1)
    | _ => (false, 0)
  let afterSign := cursor.rest.drop signs
  let whole ← wholePart? afterSign
  let afterWhole := afterSign.drop whole.length
  let fraction := fractionPart afterWhole
  let fractionLength := if fraction.isEmpty then 0 else fraction.length + 1
  let afterFraction := afterWhole.drop fractionLength
  let value := Text.decimalValue (whole ++ fraction)
  let read := signs + whole.length + fractionLength
  match exponentPart afterFraction with
  | some (length, exponent) =>
      return .ok (.double (Binary64.ofDecimal negative value (exponent - fraction.length)),
        cursor.skip (read + length))
  | none =>
      if !fraction.isEmpty then
        return .ok (.double (Binary64.ofDecimal negative value (-fraction.length)),
          cursor.skip read)
      else if Number.digitLimit < whole.length then
        return cursor.fail (.tooManyDigits whole.length)
      else
        return .ok (.int (if negative then -(value : Int) else value), cursor.skip read)

end Typeset.Json
