import Typeset.Markdown.BlockStructure
import Typeset.Markdown.RunningText
import Typeset.Text.Utf8

/-!
# Reading a document

Line ends are unified and null characters replaced.  Then the block structure
is read, and with all link definitions known, the running text of every block.
-/

namespace Typeset.Markdown

open Typeset.Text

/-- The text whose structure is read. -/
def sourceText (markdown : List Char) : List Char :=
  (unifyLines markdown).map fun c => if c.toNat = 0 then Span.replacement else c

/-- Read a document. -/
def Document.read (markdown : String) : Document :=
  let found := blockStructure (sourceText markdown.toList)
  Block.mapAll (fun text => ⟨String.ofList text, readText found.definitions text⟩) found.blocks

end Typeset.Markdown
