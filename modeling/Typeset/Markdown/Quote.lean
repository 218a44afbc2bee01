import Typeset.Markdown.Line

/-!
# Quotation markers

A line of a block quotation starts with `>` and one optional blank.  When the
blank is a tab of several columns, only one of them belongs to the marker.
-/

namespace Typeset.Markdown

open Typeset.Text

/-- Whether a line starts with a quotation marker. -/
def Frame.startsQuote (frame : Frame) (line : Line) : Bool :=
  !frame.isCode line && line.text.head? == some '>'

/-- A line of a quotation without its marker. -/
def Line.unquote (line : Line) : Line :=
  let after := line.text.drop 1
  let start := line.indent.toNat + 1
  let (spaced, shared, rest) : Bool × Bool × List Char :=
    match after with
    | ' ' :: others => (true, false, others)
    | '\t' :: others =>
        if (line.column + start) % 4 == 3 then (true, false, others) else (true, true, after)
    | _ => (false, false, after)
  let begin := if spaced && !shared then start + 1 else start
  let margin := rest.takeWhile Text.isBlank
  let reached := columnsAfter (line.column + if shared then 1 else 0) begin margin
  { line with
    margin
    column := start + if spaced then 1 else 0
    indent := reached - begin
    text := rest.drop margin.length }

/-- A line that continues a paragraph of a quotation without its marker. -/
def Line.continuation (line : Line) : Line :=
  { line with indent := -1 }

end Typeset.Markdown
