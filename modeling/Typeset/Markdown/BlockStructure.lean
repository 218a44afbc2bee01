import Typeset.Markdown.Definition
import Typeset.Markdown.Interruption

/-!
# The block structure of a document

A container is read from its first line on: blank lines are skipped, and every
other line starts a block that takes one line or more.  Quotations and list
items hold blocks themselves; they are read in the same way from the lines that
they see.

Containers are nested twenty levels deep at most.  A quotation counts as one
level, a list item together with its list as two.  What lies deeper is dropped.
-/

namespace Typeset.Markdown

open Typeset.Text

/-- What was read from the first lines of a container. -/
structure Reading where
  blocks : List (Block (List Char))
  definitions : List Definition
  /-- The number of lines that were read. -/
  taken : Nat
  /-- Whether no blank line separates the blocks. -/
  tight : Bool

/-- A way to read the lines of a container. -/
abbrev Reader :=
  Frame → List Line → Reading

/-- A block without definitions, which takes some lines. -/
def Reading.ofBlock (block : Block (List Char)) (taken : Nat) : Reading :=
  ⟨[block], [], taken, true⟩

/-- Too deep inside other containers, all lines are dropped. -/
def dropLines : Reader :=
  fun _ lines => ⟨[], [], lines.length, true⟩

/-! ## Code -/

/-- The text of some lines without the first columns of their margins. -/
def linesText (columns : Nat) (lines : List Line) : List Char :=
  joinLines (lines.map fun line => line.dropColumns columns)

/-- The lines of indented code.  Blank lines belong to it when more code
follows; `blanks` holds those that were seen last. -/
def Frame.codeLines (frame : Frame) (blanks : List Line) : List Line → List Line
  | [] => []
  | line :: rest =>
      if line.isBlank then frame.codeLines (blanks ++ [line]) rest
      else if frame.isCode line then blanks ++ line :: frame.codeLines [] rest
      else []

/-- Indented code. -/
def Frame.readCode (frame : Frame) (first : Line) (rest : List Line) : Reading :=
  let lines := first :: frame.codeLines [] rest
  .ofBlock (.code (String.ofList (linesText (4 + frame.indent) lines ++ ['\n']))) lines.length

/-- The lines inside a fence, and whether a closing fence follows them.  A fence
that is not closed ends with its container, before a line that lies outside the
list item, or before a blank end of the text. -/
def FenceOpening.content (opening : FenceOpening) (frame : Frame) : List Line → List Line × Bool
  | [] => ([], false)
  | line :: rest =>
      if !line.isBlank && frame.isOutdented line then ([], false)
      else if line.isBlank && !line.ended then ([], false)
      else if opening.isClosedBy frame line then ([], true)
      else
        let (lines, closed) := opening.content frame rest
        (line :: lines, closed)

/-- Fenced code: its lines lose as much of their margins as the opening has. -/
def Frame.readFence (frame : Frame) (opening : FenceOpening) (first : Line)
    (rest : List Line) : Reading :=
  let (lines, closed) := opening.content frame rest
  let text := lines.flatMap fun line => line.dropColumns first.indent.toNat ++ line.ending
  .ofBlock (.fence (String.ofList opening.info) (String.ofList text))
    (lines.length + if closed then 2 else 1)

/-! ## Running text -/

/-- A paragraph, or the heading that an underline makes of it. -/
def Frame.readParagraph (frame : Frame) (first : Line) (rest : List Line) : Reading :=
  let text (lines : List Line) := trim isEdge (linesText frame.indent lines)
  match if frame.isCode first then none else frame.underlined? rest with
  | some (level, count) =>
      .ofBlock (.heading level (text (first :: rest.take count))) (count + 2)
  | none =>
      let lines := first :: frame.continuation true rest
      .ofBlock (.paragraph false (text lines)) lines.length

/-- The link definition that starts at a line. -/
def Frame.definition? (frame : Frame) (first : Line) (rest : List Line) : Option Reading :=
  let lines := first :: frame.continuation false rest
  let text := lines.flatMap fun line => line.text ++ line.ending
  (Definition.read? text).map fun (definition, others) =>
    ⟨[], [definition], lines.length - (splitLines others).length, true⟩

/-- A table: its header, its alignment line and its rows. -/
def Frame.readTable (frame : Frame) (alignments : List ColumnAlignment) (header : List (List Char))
    (rest : List Line) : Reading :=
  let rows := frame.tableRows header.length 0 (rest.drop 1)
  .ofBlock (.table alignments header rows) (rows.length + 2)

/-! ## Containers -/

/-- A quotation, whose blocks `inner` reads. -/
def Frame.readQuote (frame : Frame) (inner : Reader) (lines : List Line) : Reading :=
  let found := inner ⟨0, frame.outerIndent⟩ (frame.quotedLines false lines)
  { found with blocks := [.quote found.blocks] }

/-- The items of a list. -/
structure Items where
  items : List (List (Block (List Char)))
  definitions : List Definition
  taken : Nat
  tight : Bool

/-- One item of a list.  An empty item before a blank line has no blocks. -/
def Frame.readItem (frame : Frame) (inner : Reader) (marker : Marker) (first : Line)
    (rest : List Line) : Reading :=
  if marker.isEmptyItem && rest.head?.all Line.isBlank then
    ⟨[], [], if rest.isEmpty then 1 else 2, true⟩
  else
    inner ⟨marker.contentIndent first, some frame.indent⟩ (marker.itemLine first :: rest)

/-- The marker of the item that continues a list. -/
def Frame.nextMarker? (frame : Frame) (opening : Marker) (line : Line) : Option Marker :=
  if frame.isOutdented line || frame.isCode line || frame.interruptsList line then none
  else
    match Marker.ofText? line.text with
    | some marker => if opening.continues marker then some marker else none
    | none => none

/-- Whether an item of several lines ends in a blank one. -/
def endsBlank (lines : List Line) (taken : Nat) : Bool :=
  1 < taken && (lines[taken - 1]?).any Line.isBlank

/-- The items of a list from an item with a given marker on; `separated` says
that the item before it ended in a blank line.  The first argument bounds the
number of items. -/
def Frame.readItems (frame : Frame) (inner : Reader) (opening : Marker) :
    Nat → Bool → Marker → List Line → Items
  | 0, _, _, _ => ⟨[], [], 0, true⟩
  | _ + 1, _, _, [] => ⟨[], [], 0, true⟩
  | fuel + 1, separated, marker, first :: rest =>
      let item := frame.readItem inner marker first rest
      let tight := item.tight && !separated
      let lines := (first :: rest).drop item.taken
      match lines.head?.bind (frame.nextMarker? opening) with
      | none => ⟨[item.blocks], item.definitions, item.taken, tight⟩
      | some next =>
          let others :=
            frame.readItems inner opening fuel (endsBlank (first :: rest) item.taken) next lines
          ⟨item.blocks :: others.items, item.definitions ++ others.definitions,
            item.taken + others.taken, tight && others.tight⟩

/-- A list, whose items `inner` reads. -/
def Frame.readList (frame : Frame) (inner : Reader) (marker : Marker) (lines : List Line) :
    Reading :=
  let found := frame.readItems inner marker lines.length false marker lines
  let items := if found.tight then found.items.map (·.map Block.tighten) else found.items
  let block :=
    match marker.number with
    | some start => Block.orderedList start items
    | none => Block.bulletList items
  ⟨[block], found.definitions, found.taken, true⟩

/-! ## Blocks -/

/-- The block that starts at a line. -/
def Frame.readBlock (frame : Frame) (quoted item : Reader) (first : Line) (rest : List Line) :
    Reading :=
  match frame.tableHeader? first rest with
  | some (alignments, header) => frame.readTable alignments header rest
  | none =>
  if frame.isCode first then frame.readCode first rest
  else
    match frame.fence? first with
    | some opening => frame.readFence opening first rest
    | none =>
    if frame.startsQuote first then frame.readQuote quoted (first :: rest)
    else if frame.isRule first then .ofBlock .rule 1
    else
      match frame.marker? first with
      | some marker => frame.readList item marker (first :: rest)
      | none =>
      match frame.definition? first rest with
      | some found => found
      | none =>
      match frame.heading? first with
      | some (level, text) => .ofBlock (.heading level text) 1
      | none => frame.readParagraph first rest

/-- Read blocks one after the other.  `separated` says whether a blank line was
seen, `tight` whether one stands before the block that was read last.  The first
argument bounds the number of blocks. -/
def Frame.readBlocks (frame : Frame) (quoted item : Reader) :
    Nat → Bool → Bool → List Line → Reading
  | 0, _, tight, _ => ⟨[], [], 0, tight⟩
  | fuel + 1, separated, tight, lines =>
      let blanks := (lines.takeWhile Line.isBlank).length
      match lines.drop blanks with
      | [] => ⟨[], [], lines.length, tight⟩
      | first :: rest =>
          if frame.isOutdented first then ⟨[], [], blanks, tight⟩
          else
            let found := frame.readBlock quoted item first rest
            let after := (first :: rest).drop found.taken
            let blankEnd := ((first :: rest)[found.taken - 1]?).any Line.isBlank
            let gap := if after.head?.any Line.isBlank then 1 else 0
            let others :=
              frame.readBlocks quoted item fuel (separated || blankEnd || gap == 1)
                (!separated) (after.drop gap)
            ⟨found.blocks ++ others.blocks, found.definitions ++ others.definitions,
              blanks + found.taken + gap + others.taken, others.tight⟩

/-- Read the blocks of a container with readers for the containers inside it. -/
def readContainer (quoted item : Reader) : Reader :=
  fun frame lines => frame.readBlocks quoted item lines.length false true lines

/-- Read a container that may hold so many levels of other containers, itself
included. -/
def readLevels : Nat → Reader
  | 0 => dropLevels
  | 1 => readContainer dropLevels dropLevels
  | levels + 2 => readContainer (readLevels (levels + 1)) (readLevels levels)
where
  /-- Blank lines are read and lines outside the container are left also where
  all other lines are dropped. -/
  dropLevels : Reader :=
    fun frame lines =>
      match lines.dropWhile Line.isBlank with
      | [] => dropLines frame lines
      | first :: _ =>
          if frame.isOutdented first then
            ⟨[], [], (lines.takeWhile Line.isBlank).length, true⟩
          else
            dropLines frame lines

/-- How deep containers may be nested. -/
def nestedContainers : Nat :=
  20

/-- The blocks and link definitions of a text. -/
def blockStructure (text : List Char) : Reading :=
  readLevels nestedContainers Frame.outermost (splitLines text)

end Typeset.Markdown
