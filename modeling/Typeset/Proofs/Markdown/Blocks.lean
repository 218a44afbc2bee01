import Typeset.Proofs.Article
import Typeset.Proofs.Markdown.Lines

/-!
# Containers with one block

A container all of whose lines are taken by the block that its first line starts holds that block
alone.  Main statements: a text whose lines are one block has the structure of that block, and an
article has the HTML of the blocks that its text is read as.
-/

namespace Typeset

namespace Markdown

/-! ## Lines that start no block -/

namespace Frame

variable {frame : Frame} {first : Line} {rest : List Line}

/-- A line without a vertical bar is not the header of a table. -/
theorem tableHeader?_eq_none (noBar : '|' ∉ first.text) : frame.tableHeader? first rest = none := by
  have noBarInside : '|' ∉ Text.trim Text.isEdge first.text := by
    intro member
    apply noBar
    rw [Text.trim, List.mem_reverse] at member
    have kept := (List.dropWhile_sublist _).mem member
    exact (List.dropWhile_sublist _).mem (List.mem_reverse.mp kept)
  unfold tableHeader?
  split
  · rfl
  · dsimp only
    rw [if_pos]
    simp [noBarInside]

/-- A line that opens a fence is read as fenced code. -/
theorem readBlock_of_fence? (quoted item : Reader) (noBar : '|' ∉ first.text)
    (notCode : frame.isCode first = false) {opening : FenceOpening}
    (found : frame.fence? first = some opening) :
    frame.readBlock quoted item first rest = frame.readFence opening first rest := by
  rw [readBlock, tableHeader?_eq_none noBar]
  simp only [notCode, found, Bool.false_eq_true, if_false]

theorem readBlocks_nil (quoted item : Reader) (fuel : Nat) (separated tight : Bool) :
    frame.readBlocks quoted item fuel separated tight [] = ⟨[], [], 0, tight⟩ := by
  cases fuel <;> rfl

/-- A container has the one block that takes all its lines. -/
theorem readContainer_of_readBlock {quoted item : Reader} {found : Reading}
    (notBlank : first.isBlank = false) (inside : frame.isOutdented first = false)
    (read : frame.readBlock quoted item first rest = found)
    (all : found.taken = rest.length + 1) :
    readContainer quoted item frame (first :: rest) = { found with tight := true } := by
  have noBlanks : (first :: rest).takeWhile Line.isBlank = [] := by
    rw [List.takeWhile_cons, notBlank]
    rfl
  have nothingAfter : (first :: rest).drop found.taken = [] :=
    List.drop_eq_nil_of_le (by rw [all, List.length_cons])
  rw [readContainer, List.length_cons, readBlocks]
  simp only [noBlanks, List.length_nil, List.drop_zero, inside, read, nothingAfter,
    List.head?_nil, Option.any_none, Bool.false_eq_true, if_false, readBlocks_nil,
    List.append_nil, Nat.zero_add, Nat.add_zero, Bool.not_false]

end Frame

/-! ## Documents -/

/-- A text whose lines are one block has the structure of that block. -/
theorem blockStructure_of_readBlock {text : List Char} {first : Line} {rest : List Line}
    {found : Reading} (lines : splitLines text = first :: rest) (notBlank : first.isBlank = false)
    (inside : Frame.outermost.isOutdented first = false)
    (read : Frame.outermost.readBlock (readLevels 19) (readLevels 18) first rest = found)
    (all : found.taken = rest.length + 1) :
    blockStructure text = { found with tight := true } := by
  rw [blockStructure, lines]
  exact Frame.readContainer_of_readBlock notBlank inside read all

/-- A text is read from its block structure. -/
theorem Document.read_of_blockStructure {markdown : String} (isSource : IsSource markdown)
    {found : Reading} (structured : blockStructure markdown.toList = found) :
    Document.read markdown = Block.mapAll
      (fun text => ⟨String.ofList text, readText found.definitions text⟩) found.blocks := by
  rw [Document.read, sourceText_eq_self isSource, structured]

end Markdown

/-! ## HTML -/

namespace Node

variable {settings : Settings} {table : RuleTable}

/-- No block is an image. -/
theorem role_ofBlock_ne_image (block : Markdown.Block Markdown.RunningText) :
    (ofBlock block).role ≠ .image := by
  cases block <;> simp [ofBlock, ofTable, element]

theorem renderAll_singleton {node : Node} {html : String}
    (rendered : node.render table settings = .ok html) :
    renderAll table settings [node] = .ok html :=
  renderAll_cons_eq_ok_iff.mpr ⟨html, rendered, "", rfl, String.append_empty⟩

/-- A node with children that has a styled form is rendered by the rule for it. -/
theorem render_of_styled? {node : Node} (notImage : node.role ≠ .image) {inner html : String}
    {styled : Styled} (children : renderAll .builtin settings node.children = .ok inner)
    (found : node.styled? inner = some (.ok styled)) (rendered : styled.html settings = .ok html) :
    node.render .builtin settings = .ok html := by
  refine render_eq_ok_iff.mpr ⟨inner, by rw [if_neg notImage, children], ?_⟩
  simp only [finish, found, RuleTable.render_builtin, rendered]

/-- A node with children that has no styled form is written as plain HTML. -/
theorem render_of_plain {node : Node} (notImage : node.role ≠ .image) {inner : String}
    (children : renderAll table settings node.children = .ok inner)
    (unstyled : node.styled? inner = none) :
    node.render table settings = .ok (node.plain inner) := by
  refine render_eq_ok_iff.mpr ⟨inner, by rw [if_neg notImage, children], ?_⟩
  rw [finish, unstyled]

end Node

open Node in
/-- An article has the HTML of the blocks that its text is read as. -/
theorem Article.fragment_of_document {markdown : String} {document : Markdown.Document}
    {table : RuleTable} {settings : Settings} {html : String}
    (read : Markdown.Document.read markdown = document)
    (rendered : renderAll table settings (ofBlocks document) = .ok html) :
    fragment table (.text markdown) settings = .ok html := by
  apply fragment_text_eq_ok_iff.mpr
  rw [body, tree, read]
  exact render_of_plain (by simp [ofDocument]) rendered rfl

end Typeset
