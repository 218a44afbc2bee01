import Typeset.Markdown.Document
import Typeset.Markdown.Line

/-!
# Fences, rules and headings

These blocks are recognised by the text of one line.
-/

namespace Typeset.Markdown

open Typeset.Text

/-- The character that fences code and marks code in running text. -/
def backtick : Char :=
  Char.ofNat 0x60

/-- The line that opens fenced code. -/
structure FenceOpening where
  sign : Char
  length : Nat
  info : List Char

/-- The opening of a fence: three signs or more, and an info text that may not
hold a backtick after backticks. -/
def Frame.fence? (frame : Frame) (line : Line) : Option FenceOpening :=
  if frame.isCode line then none
  else
    match line.text with
    | [] => none
    | sign :: _ =>
        if sign == '~' || sign == backtick then
          let length := (line.text.takeWhile (· == sign)).length
          let info := line.text.drop length
          if length < 3 || (sign == backtick && info.contains backtick) then none
          else some ⟨sign, length, info⟩
        else
          none

/-- Whether a line closes a fence: at least as many signs as opened it, and
nothing but blanks after them. -/
def FenceOpening.isClosedBy (opening : FenceOpening) (frame : Frame) (line : Line) : Bool :=
  let signs := line.text.takeWhile (· == opening.sign)
  !frame.isCode line && opening.length ≤ signs.length &&
    (line.text.drop signs.length).all Text.isBlank

/-- Whether a line is a rule: three or more of one sign, with blanks between. -/
def Frame.isRule (frame : Frame) (line : Line) : Bool :=
  match line.text with
  | [] => false
  | sign :: _ =>
      !frame.isCode line && (sign == '*' || sign == '-' || sign == '_') &&
        line.text.all (fun c => c == sign || Text.isBlank c) && 3 ≤ line.text.count sign

/-- The text of a heading after its opening signs: blanks and a run of closing
signs that a blank precedes are dropped. -/
def headingText (text : List Char) : List Char :=
  let reversed := text.reverse.dropWhile Text.isBlank
  let unsigned := reversed.dropWhile (· == '#')
  match unsigned with
  | c :: _ => trim isEdge (if Text.isBlank c then unsigned.reverse else reversed.reverse)
  | [] => trim isEdge reversed.reverse

/-- A heading of one line: one to six signs, and a blank or the end of the
line. -/
def Frame.heading? (frame : Frame) (line : Line) : Option (HeadingLevel × List Char) :=
  let signs := line.text.takeWhile (· == '#')
  let rest := line.text.drop signs.length
  if frame.isCode line || !(rest.head?.all Text.isBlank) then none
  else (HeadingLevel.ofNat? signs.length).map fun level => (level, headingText rest)

/-- The level of the heading that a line underlines. -/
def underline? (line : Line) : Option HeadingLevel :=
  match line.text with
  | [] => none
  | sign :: _ =>
      if (sign == '=' || sign == '-') &&
          (line.text.dropWhile (· == sign)).all Text.isBlank then
        some (if sign == '=' then .first else .second)
      else
        none

end Typeset.Markdown
