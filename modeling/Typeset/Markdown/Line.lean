import Typeset.Text.Blank

/-!
# Lines

A line is seen from inside the quotations and list items that hold it.  Its
margin is what stands before its text: blanks, and the markers of the list items
that start on the line.  Tabs reach to the next column that is a multiple of
four, so the columns of a margin depend on where it starts.

Inside a quotation a line that continues a paragraph without the quotation's
marker keeps its margin but has the indentation `-1`, which no block accepts.
-/

namespace Typeset.Markdown

open Typeset.Text

/-- A line as a container sees it. -/
structure Line where
  /-- The blanks and markers before the text. -/
  margin : List Char
  /-- The column at which the margin starts. -/
  column : Nat
  /-- The number of columns before the text. -/
  indent : Int
  /-- The text up to the end of the line. -/
  text : List Char
  /-- Whether the line ends in a line feed. -/
  ended : Bool

/-- The columns that blanks reach when they follow `reached` columns of a margin
that starts at `column`. -/
def columnsAfter (column reached : Nat) : List Char → Nat
  | [] => reached
  | c :: rest =>
      let width := if c == '\t' then 4 - (reached + column) % 4 else 1
      columnsAfter column (reached + width) rest

namespace Line

/-- A line with nothing but blanks. -/
def isBlank (line : Line) : Bool :=
  line.text.isEmpty

/-- A line of a text that is in no container yet. -/
def ofChars (chars : List Char) (ended : Bool) : Line :=
  let margin := chars.takeWhile Text.isBlank
  { margin
    column := 0
    indent := columnsAfter 0 0 margin
    text := chars.drop margin.length
    ended }

/-- The part of a margin after its first `columns` columns.  A tab that reaches
further leaves spaces. -/
def marginAfter (column columns reached : Nat) : List Char → List Char
  | [] => List.replicate (reached - columns) ' '
  | c :: rest =>
      if columns ≤ reached then List.replicate (reached - columns) ' ' ++ c :: rest
      else
        let width := if c == '\t' then 4 - (reached + column) % 4 else 1
        marginAfter column columns (reached + width) rest

/-- The line without the first columns of its margin. -/
def dropColumns (line : Line) (columns : Nat) : List Char :=
  marginAfter line.column columns 0 line.margin ++ line.text

/-- The end of a line. -/
def ending (line : Line) : List Char :=
  if line.ended then ['\n'] else []

end Line

/-- The lines of a text.  A last line of nothing but blanks that has no end is
no line. -/
def splitLines (text : List Char) : List Line :=
  go [] text
where
  /-- `reversed` holds the characters of the line that is being read. -/
  go (reversed : List Char) : List Char → List Line
    | [] =>
        if reversed.all Text.isBlank then [] else [Line.ofChars reversed.reverse false]
    | c :: rest =>
        if c == '\n' then Line.ofChars reversed.reverse true :: go [] rest
        else go (c :: reversed) rest

/-- Join lines with line feeds, without one at the end. -/
def joinLines : List (List Char) → List Char
  | [] => []
  | [line] => line
  | line :: next :: lines => line ++ '\n' :: joinLines (next :: lines)

/-- What the blocks around a line require of it. -/
structure Frame where
  /-- The columns that a line needs to belong to the innermost list item. -/
  indent : Nat
  /-- The columns of the list around that item, when there is one. -/
  outerIndent : Option Nat

namespace Frame

/-- The frame of a whole document, and of a quotation outside lists. -/
def outermost : Frame :=
  ⟨0, none⟩

/-- The columns by which a line exceeds what the frame requires. -/
def excess (frame : Frame) (line : Line) : Int :=
  line.indent - frame.indent

/-- Four columns too many make a line code. -/
def isCode (frame : Frame) (line : Line) : Bool :=
  4 ≤ frame.excess line

/-- Whether a line lacks columns that the frame requires. -/
def isOutdented (frame : Frame) (line : Line) : Bool :=
  line.indent < frame.indent

end Frame

end Typeset.Markdown
