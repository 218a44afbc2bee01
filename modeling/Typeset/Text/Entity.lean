import Std.Data.HashMap
import Typeset.Text.AsciiDigit
import Typeset.Text.Blank
import Typeset.Text.EntityTable

/-!
# Character references

A character is written by name, as in `&copy;`, or by number, as in `&#169;` and
`&#xA9;`.  Numbers of code points that do not stand for text are refused.
-/

namespace Typeset.Text

/-- One entry of the table: a name and the text that it stands for. -/
def readEntry (entry : List Char) : String × String :=
  let name := entry.takeWhile (· != '=')
  let codes := splitAt '+' ((entry.dropWhile (· != '=')).drop 1)
  (String.ofList name, String.ofList (codes.map fun code => Char.ofNat (hexValue code)))

/-- Cut a text into words at spaces and line feeds. -/
def tableWords (text : List Char) : List (List Char) :=
  ((splitAt '\n' text).flatMap (splitAt ' ')).filter fun word => !word.isEmpty

/-- The texts that the names stand for. -/
def entities : Std.HashMap String String :=
  Std.HashMap.ofList ((tableWords entityTable.toList).map readEntry)

/-- The text that a name stands for. -/
def entity? (name : List Char) : Option (List Char) :=
  entities[String.ofList name]?.map String.toList

/-- Whether a number is the code point of a character of text.  Surrogates,
non-characters and controls other than the common white space are not. -/
def isTextCode (code : Nat) : Bool :=
  !(0xD800 ≤ code && code ≤ 0xDFFF) &&
  !(0xFDD0 ≤ code && code ≤ 0xFDEF) &&
  !(code % 0x10000 == 0xFFFF || code % 0x10000 == 0xFFFE) &&
  !(code ≤ 0x08) && !(code == 0x0B) && !(0x0E ≤ code && code ≤ 0x1F) &&
  !(0x7F ≤ code && code ≤ 0x9F) && code ≤ 0x10FFFF

/-- A number between `&#` and `;`: its value and the text after the semicolon.
At most `decimals` decimal or `hexadecimals` hexadecimal digits are read. -/
def numericReference? (decimals hexadecimals : Nat) (text : List Char) :
    Option (Nat × List Char) :=
  match text with
  | mark :: rest =>
      if mark == 'x' || mark == 'X' then
        let digits := rest.takeWhile fun c => (hexDigit? c).isSome
        match rest.drop digits.length with
        | ';' :: after =>
            if digits.isEmpty || hexadecimals < digits.length then none
            else some (hexValue digits, after)
        | _ => none
      else
        let digits := text.takeWhile Char.isDigit
        match text.drop digits.length with
        | ';' :: after =>
            if digits.isEmpty || decimals < digits.length then none
            else some (decimalValue digits, after)
        | _ => none
  | [] => none

/-- A name between `&` and `;`, of 2 to 32 letters and digits, and the text after
the semicolon. -/
def nameReference? (text : List Char) : Option (List Char × List Char) :=
  let name := text.takeWhile Char.isAlphanum
  match text.drop name.length with
  | ';' :: after =>
      if name.length < 2 || 32 < name.length || !(name.head?.any Char.isAlpha) then none
      else some (name, after)
  | _ => none

/-! ## Unescaping -/

/-- A reference inside an address or a title, after its ampersand.  A number
that stands for no character of text leaves the reference as written. -/
def reference? (text : List Char) : Option (List Char × List Char) :=
  match text with
  | '#' :: rest =>
      match numericReference? 8 8 rest with
      | some (code, after) =>
          if isTextCode code then some ([Char.ofNat code], after) else none
      | none => none
  | _ =>
      match nameReference? text with
      | some (name, after) => (entity? name).map fun chars => (chars, after)
      | none => none

end Typeset.Text
