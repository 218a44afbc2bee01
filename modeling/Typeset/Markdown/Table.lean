import Typeset.Markdown.Document
import Typeset.Markdown.Line

/-!
# Tables

The second line of a table consists of signs alone and gives the alignment of
every column; the first line holds as many cells.  Cells are separated by
vertical bars.  A backslash before a bar makes it a part of its cell, whatever
stands before the backslash.
-/

namespace Typeset.Markdown

open Typeset.Text

/-! ## The alignment line -/

/-- The signs of an alignment line. -/
def isAlignmentSign (c : Char) : Bool :=
  c == '|' || c == '-' || c == ':'

/-- Whether a text consists of alignment signs and blanks, and cannot be taken
for a list item. -/
def isAlignmentLine (text : List Char) : Bool :=
  match text with
  | first :: second :: rest =>
      isAlignmentSign first && (isAlignmentSign second || Text.isBlank second) &&
        !(first == '-' && Text.isBlank second) &&
        rest.all fun c => isAlignmentSign c || Text.isBlank c
  | _ => false

/-- The alignment of a column: hyphens, with colons at the aligned sides. -/
def ColumnAlignment.ofChars? (text : List Char) : Option ColumnAlignment :=
  let left := text.head? == some ':'
  let unopened := if left then text.drop 1 else text
  let right := unopened.getLast? == some ':'
  let hyphens := if right then unopened.dropLast else unopened
  if hyphens.isEmpty || !(hyphens.all (· == '-')) then none
  else
    some (match left, right with
      | false, false => .unset
      | true, false => .left
      | false, true => .right
      | true, true => .center)

/-- The alignments of the columns.  The first and the last column may be
missing. -/
def alignments? (text : List Char) : Option (List ColumnAlignment) :=
  let columns := (splitAt '|' text).map (trim Text.isBlank)
  let inner := if columns.head?.any List.isEmpty then columns.drop 1 else columns
  let inner := if inner.getLast?.any List.isEmpty then inner.dropLast else inner
  inner.mapM ColumnAlignment.ofChars?

/-! ## Cells -/

/-- Cut a line at its vertical bars; `reversed` holds the cell being read. -/
def cutCells (reversed : List Char) : List Char → List (List Char)
  | [] => [reversed.reverse]
  | c :: rest =>
      if c == '|' then
        match reversed with
        | '\\' :: before => cutCells ('|' :: before) rest
        | _ => reversed.reverse :: cutCells [] rest
      else
        cutCells (c :: reversed) rest

/-- The cells of a line without its margins.  Nothing before the first bar and
nothing after the last bar is no cell. -/
def cells (text : List Char) : List (List Char) :=
  let all := cutCells [] text
  let all := if all.head?.any List.isEmpty then all.drop 1 else all
  let all := if all.getLast?.any List.isEmpty then all.dropLast else all
  all.map (trim isEdge)

/-- A row of as many cells as there are columns. -/
def fitRow (columns : Nat) (row : List (List Char)) : List (List Char) :=
  row.take columns ++ List.replicate (columns - row.length) []

namespace Frame

/-- The columns of a table that starts with a line, when the line after it is
an alignment line. -/
def tableHeader? (frame : Frame) (line : Line) (rest : List Line) :
    Option (List ColumnAlignment × List (List Char)) :=
  match rest with
  | [] => none
  | second :: _ =>
      let header := trim isEdge line.text
      if frame.isOutdented second || frame.isCode second || !isAlignmentLine second.text ||
          frame.isCode line || !header.contains '|' then
        none
      else
        match alignments? second.text with
        | none => none
        | some alignments =>
            let row := cells header
            if row.isEmpty || row.length ≠ alignments.length then none
            else some (alignments, row)

end Frame

end Typeset.Markdown
