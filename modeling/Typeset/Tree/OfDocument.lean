import Typeset.Markdown.Document
import Typeset.Tree.Node

/-!
# The tree of a document

Every part of a document has its node.  Running text stands in a node of its own,
which also keeps the written form.  The attributes of a node are only those that
say more than its role: the number of a list that does not start with one, the
alignment of a cell, the title of a link that has one.
-/

namespace Typeset.Node

open Typeset.Markdown

/-! ## Running text -/

/-- A title as an attribute, unless it is empty. -/
def titleAttribute (title : String) : List (String × AttributeValue) :=
  if title.isEmpty then [] else [("title", .text title)]

mutual

/-- The node of a part of running text. -/
def ofInline : Inline → Node
  | .text content => { role := .text, content }
  | .softBreak => { role := .softBreak, tag := "br" }
  | .hardBreak => { role := .hardBreak, tag := "br" }
  | .code content => { role := .inlineCode, tag := "code", content }
  | .emphasis children => { role := .other "em", tag := "em", children := ofInlines children }
  | .strong children => { role := .strong, tag := "strong", children := ofInlines children }
  | .strike children => { role := .other "s", tag := "s", children := ofInlines children }
  | .link address title children =>
      { role := .link, tag := "a"
        attributes := ("href", .text address) :: titleAttribute title
        children := ofInlines children }
  | .image address title label children =>
      { role := .image, tag := "img"
        attributes := ("src", .text address) :: ("alt", .text "") :: titleAttribute title
        content := label
        children := ofInlines children }

/-- The nodes of running text. -/
def ofInlines : List Inline → List Node
  | [] => []
  | inline :: inlines => ofInline inline :: ofInlines inlines

end

/-- The node of the running text of a block. -/
def ofText (text : RunningText) : Node :=
  { role := .inline, content := text.source, block := true, children := ofInlines text.inlines }

/-! ## Blocks -/

/-- A block that is known by its tag alone. -/
def element (name : String) (children : List Node) : Node :=
  { role := .other name, tag := name, block := true, children }

/-- The alignment of a cell as an attribute. -/
def alignmentAttribute : ColumnAlignment → List (String × AttributeValue)
  | .unset => []
  | .left => [("style", .text "text-align:left")]
  | .center => [("style", .text "text-align:center")]
  | .right => [("style", .text "text-align:right")]

/-- The row of a table, made of header cells or data cells. -/
def ofRow (tag : String) (alignments : List ColumnAlignment) (row : List RunningText) : Node :=
  element "tr" (List.zipWith
    (fun alignment text =>
      { element tag [ofText text] with attributes := alignmentAttribute alignment })
    alignments row)

/-- A table; one without rows has no body. -/
def ofTable (alignments : List ColumnAlignment) (header : List RunningText)
    (rows : List (List RunningText)) : Node :=
  let head := element "thead" [ofRow "th" alignments header]
  let body := element "tbody" (rows.map (ofRow "td" alignments))
  element "table" (if rows.isEmpty then [head] else [head, body])

/-- The first number of a list as an attribute, unless it is one. -/
def startAttribute (start : ListStart) : List (String × AttributeValue) :=
  if start.val = 1 then []
  else [("start", .number (.int start.val) (Number.isWritable_of_natAbs_lt start.isLt))]

mutual

/-- The node of a block. -/
def ofBlock : Block RunningText → Node
  | .paragraph tight text =>
      { role := .paragraph, tag := "p", hidden := tight, block := true
        children := [ofText text] }
  | .heading level text =>
      { role := .heading, tag := "h" ++ toString level.number, block := true
        children := [ofText text] }
  | .quote blocks =>
      { role := .blockquote, tag := "blockquote", block := true, children := ofBlocks blocks }
  | .bulletList items =>
      { role := .bulletList, tag := "ul", block := true, children := ofItems items }
  | .orderedList start items =>
      { role := .orderedList, tag := "ol", block := true
        attributes := startAttribute start
        children := ofItems items }
  | .fence info content => { role := .fence, tag := "code", info, content, block := true }
  | .code content => { role := .codeBlock, tag := "code", content, block := true }
  | .rule => { role := .horizontalRule, tag := "hr", block := true }
  | .table alignments header rows => ofTable alignments header rows

/-- The nodes of blocks. -/
def ofBlocks : List (Block RunningText) → List Node
  | [] => []
  | block :: blocks => ofBlock block :: ofBlocks blocks

/-- The nodes of list items. -/
def ofItems : List (List (Block RunningText)) → List Node
  | [] => []
  | item :: items =>
      { role := .listItem, tag := "li", block := true, children := ofBlocks item } ::
        ofItems items

end

/-- The tree of a document. -/
def ofDocument (document : Document) : Node :=
  { role := .root, children := ofBlocks document }

end Typeset.Node
