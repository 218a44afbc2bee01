import Typeset.Markdown.Document
import Typeset.Markdown.Line
import Typeset.Text.AsciiDigit
import Typeset.Text.Entity

/-!
# List markers

A list item starts with a bullet, or with a number of at most nine digits and a
full stop or a closing parenthesis.  A blank or the end of the line follows.
-/

namespace Typeset.Markdown

open Typeset.Text

/-- The marker of a list item. -/
structure Marker where
  /-- The number of an ordered item. -/
  number : Option ListStart
  /-- The bullet, or the character after the number. -/
  sign : Char
  /-- The number of characters of the marker. -/
  width : Nat
  /-- The text after the marker. -/
  rest : List Char

namespace Marker

/-- Whether a text starts with a blank or is empty. -/
def endsHere : List Char → Bool
  | [] => true
  | c :: _ => Text.isBlank c

/-- A bullet at the start of a text. -/
def bullet? : List Char → Option Marker
  | [] => none
  | c :: rest =>
      if (c == '*' || c == '-' || c == '+') && endsHere rest then some ⟨none, c, 1, rest⟩
      else none

/-- At most nine digits are the first number of a list. -/
theorem decimalValue_lt_of_length_le {digits : List Char}
    (areDigits : ∀ c ∈ digits, c.isDigit = true) (short : digits.length ≤ 9) :
    decimalValue digits < 1000000000 :=
  Nat.lt_of_lt_of_le (decimalValue_lt areDigits) (Nat.pow_le_pow_right (by decide) short)

/-- A number with its sign at the start of a text. -/
def numbered? (text : List Char) : Option Marker :=
  let digits := text.takeWhile Char.isDigit
  if digits.isEmpty then none
  else if short : digits.length ≤ 9 then
    match text.drop digits.length with
    | [] => none
    | sign :: rest =>
        if (sign == '.' || sign == ')') && endsHere rest then
          have areDigits : ∀ c ∈ digits, c.isDigit = true :=
            List.all_eq_true.mp List.all_takeWhile
          let start := ⟨decimalValue digits, decimalValue_lt_of_length_le areDigits short⟩
          some ⟨some start, sign, digits.length + 1, rest⟩
        else
          none
  else none

/-- The marker at the start of a line's text. -/
def ofText? (text : List Char) : Option Marker :=
  (numbered? text).or (bullet? text)

/-- Whether two markers belong to one list: both are ordered or both are not,
and they have the same sign. -/
def continues (first next : Marker) : Bool :=
  first.number.isSome == next.number.isSome && first.sign == next.sign

/-- Whether nothing but blanks follows the marker. -/
def isEmptyItem (marker : Marker) : Bool :=
  marker.rest.all Text.isBlank

/-- The line as the item sees it: the marker is part of its margin. -/
def itemLine (marker : Marker) (line : Line) : Line :=
  let blanks := marker.rest.takeWhile Text.isBlank
  let start := line.indent.toNat + marker.width
  { line with
    margin := line.margin ++ line.text.take marker.width ++ blanks
    indent := columnsAfter line.column start blanks
    text := marker.rest.drop blanks.length }

/-- The columns that lines need to belong to the item.  More than four blanks
after the marker count as one, the others being code; so do the blanks of an
empty item. -/
def contentIndent (marker : Marker) (line : Line) : Nat :=
  let blanks := marker.rest.takeWhile Text.isBlank
  let start := line.indent.toNat + marker.width
  let after := columnsAfter line.column start blanks - start
  start + (if marker.isEmptyItem || 4 < after then 1 else after)

end Marker

/-- The marker of a line that starts a list item.  A line that belongs to no
item by its columns, but is far inside the list around, starts none. -/
def Frame.marker? (frame : Frame) (line : Line) : Option Marker :=
  let astray :=
    match frame.outerIndent with
    | some outer => 4 ≤ line.indent - outer && frame.isOutdented line
    | none => false
  if frame.isCode line || astray then none else Marker.ofText? line.text

/-- Whether a list may start at a line.  After the lines of a paragraph it may
not start with an empty item or, if ordered, with another number than one,
unless the line lies outside the innermost item. -/
def Frame.startsList (frame : Frame) (afterParagraph : Bool) (line : Line) : Bool :=
  match frame.marker? line with
  | none => false
  | some marker =>
      let strict := afterParagraph && !frame.isOutdented line
      !strict || (!marker.isEmptyItem && marker.number.all (·.val == 1))

end Typeset.Markdown
