import Typeset.Markdown.Leaf
import Typeset.Markdown.Marker
import Typeset.Markdown.Quote
import Typeset.Markdown.Table

/-!
# Interruptions

A line that follows the text of a paragraph continues it unless it is blank or
starts another block.  Three sets of blocks are told apart:

- a quotation, a fence and a rule interrupt everything, also the items of a list;
- a heading and a list interrupt quotations and tables as well;
- a table interrupts paragraphs and link definitions only.
-/

namespace Typeset.Markdown

namespace Frame

/-- Whether a line ends a list although it may look like another item. -/
def interruptsList (frame : Frame) (line : Line) : Bool :=
  (frame.fence? line).isSome || frame.startsQuote line || frame.isRule line

/-- Whether a line starts a block that is recognised by that line alone. -/
def interrupts (frame : Frame) (afterParagraph : Bool) (line : Line) : Bool :=
  frame.interruptsList line || frame.startsList afterParagraph line ||
    (frame.heading? line).isSome

/-- Whether a line starts a block, given the lines after it. -/
def startsBlock (frame : Frame) (afterParagraph : Bool) (line : Line)
    (rest : List Line) : Bool :=
  (frame.tableHeader? line rest).isSome || frame.interrupts afterParagraph line

/-- Whether a line continues running text whatever it looks like: it is too far
inside to start a block, or it lacks the marker of a quotation. -/
def isLazy (frame : Frame) (line : Line) : Bool :=
  frame.isCode line || line.indent < 0

/-- The lines that continue running text.  In a paragraph the rules for lists
are stricter than in a link definition. -/
def continuation (frame : Frame) (afterParagraph : Bool) : List Line → List Line
  | [] => []
  | line :: rest =>
      if !line.isBlank && (frame.isLazy line || !frame.startsBlock afterParagraph line rest) then
        line :: continuation frame afterParagraph rest
      else
        []

/-- The heading that a paragraph is turned into by an underline: its level, and
the number of lines before the underline. -/
def underlined? (frame : Frame) : List Line → Option (HeadingLevel × Nat)
  | [] => none
  | line :: rest =>
      let later := (underlined? frame rest).map fun (level, lines) => (level, lines + 1)
      if line.isBlank then none
      else if frame.isCode line then later
      else
        match if frame.isOutdented line then none else underline? line with
        | some level => some (level, 0)
        | none => if frame.isLazy line || !frame.startsBlock true line rest then later else none

/-- The lines of a quotation as its blocks see them.  A line without the marker
may continue a paragraph of the quotation unless the line before it, `emptied`,
holds the marker alone. -/
def quotedLines (frame : Frame) (emptied : Bool) : List Line → List Line
  | [] => []
  | line :: rest =>
      if line.isBlank then []
      else if line.text.head? == some '>' && !frame.isOutdented line then
        line.unquote :: quotedLines frame line.unquote.isBlank rest
      else if emptied || frame.interrupts false line then []
      else line.continuation :: quotedLines frame emptied rest

/-- How many cells may be added to the rows of one table. -/
def addedCells : Nat :=
  65536

/-- The rows of a table after its alignment line; `added` counts the cells that
were added to the rows before, less the cells that were dropped. -/
def tableRows (frame : Frame) (columns : Nat) (added : Int) :
    List Line → List (List (List Char))
  | [] => []
  | line :: rest =>
      let text := Text.trim Text.isEdge line.text
      if frame.isOutdented line || frame.isCode line || text.isEmpty ||
          frame.interrupts false line then
        []
      else
        let row := cells text
        let added := added + columns - row.length
        if addedCells < added then []
        else fitRow columns row :: tableRows frame columns added rest

end Frame

end Typeset.Markdown
