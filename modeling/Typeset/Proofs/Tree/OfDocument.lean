import Typeset.Tree.OfDocument
import Typeset.Proofs.Tree.Nodes

/-!
# The nodes of a document's tree

Whatever a document holds, the nodes of its tree have one of a few shapes, that
is, roles with their tags.  The names of their attributes are fixed as well, and
the number of a list has at most nine digits.  No tag and no name is taken from
the text of the document, and no shape stands for raw HTML.
-/

namespace Typeset.Node

open Typeset.Markdown

/-- The roles of a document's nodes with their tags. -/
def shapes : List (Role × String) :=
  [(.root, ""), (.inline, ""), (.text, ""), (.softBreak, "br"), (.hardBreak, "br"),
    (.inlineCode, "code"), (.other "em", "em"), (.strong, "strong"), (.other "s", "s"),
    (.link, "a"), (.image, "img"), (.paragraph, "p"), (.heading, "h1"), (.heading, "h2"),
    (.heading, "h3"), (.heading, "h4"), (.heading, "h5"), (.heading, "h6"),
    (.blockquote, "blockquote"), (.bulletList, "ul"), (.orderedList, "ol"), (.listItem, "li"),
    (.fence, "code"), (.codeBlock, "code"), (.horizontalRule, "hr"), (.other "table", "table"),
    (.other "thead", "thead"), (.other "tbody", "tbody"), (.other "tr", "tr"),
    (.other "th", "th"), (.other "td", "td")]

/-- The names of a document's attributes. -/
def attributeNames : List String :=
  ["style", "start", "href", "title", "src", "alt"]

/-- What holds of every node of a document's tree. -/
structure FromDocument (node : Node) : Prop where
  shape : shapes.contains (node.role, node.tag) = true
  names : ∀ entry ∈ node.attributes, attributeNames.contains entry.1 = true
  start : ∀ value, ("start", value) ∈ node.attributes →
    ∃ (n : Nat) (writable : (Number.int n).isWritable = true),
      n ≤ 999999999 ∧ value = .number (.int n) writable

namespace FromDocument

/-- A node without attributes comes from a document if its shape does. -/
theorem of_shape {node : Node} (shape : shapes.contains (node.role, node.tag) = true)
    (bare : node.attributes = []) : node.FromDocument where
  shape := shape
  names := by simp [bare]
  start := by simp [bare]

/-- A node comes from a document if its shape does and its attributes hold texts
under known names. -/
theorem of_texts {node : Node} (shape : shapes.contains (node.role, node.tag) = true)
    (texts : ∀ entry ∈ node.attributes,
      attributeNames.contains entry.1 = true ∧ (entry.1 == "start") = false) :
    node.FromDocument where
  shape := shape
  names entry member := (texts entry member).1
  start _ member := nomatch (texts _ member).2

end FromDocument

/-- All nodes of a tree come from a document if its root and the nodes below it
do. -/
theorem forall_fromDocument {tree : Node} (root : tree.FromDocument)
    (below : ∀ node ∈ allNodes tree.children, node.FromDocument) :
    ∀ node ∈ tree.nodes, node.FromDocument := by
  intro node member
  rw [nodes_eq] at member
  rcases List.mem_cons.mp member with rfl | member
  · exact root
  · exact below node member

/-- Nothing stands below a leaf. -/
theorem forall_fromDocument_leaf {tree : Node} (root : tree.FromDocument)
    (leaf : tree.children = []) : ∀ node ∈ tree.nodes, node.FromDocument := by
  apply forall_fromDocument root
  rw [leaf]
  intro node member
  contradiction

/-! ## Running text -/

theorem mem_titleAttribute {title : String} {entry : String × AttributeValue}
    (member : entry ∈ titleAttribute title) : entry = ("title", .text title) := by
  unfold titleAttribute at member
  split at member
  · contradiction
  · simpa using member

mutual

theorem fromDocument_ofInline :
    ∀ inline : Inline, ∀ node ∈ (ofInline inline).nodes, node.FromDocument
  | .text _ => forall_fromDocument_leaf (.of_shape rfl rfl) rfl
  | .softBreak => forall_fromDocument_leaf (.of_shape rfl rfl) rfl
  | .hardBreak => forall_fromDocument_leaf (.of_shape rfl rfl) rfl
  | .code _ => forall_fromDocument_leaf (.of_shape rfl rfl) rfl
  | .emphasis children =>
      forall_fromDocument (.of_shape rfl rfl) (fromDocument_ofInlines children)
  | .strong children =>
      forall_fromDocument (.of_shape rfl rfl) (fromDocument_ofInlines children)
  | .strike children =>
      forall_fromDocument (.of_shape rfl rfl) (fromDocument_ofInlines children)
  | .link _ _ children => by
      apply forall_fromDocument (.of_texts rfl ?_) (fromDocument_ofInlines children)
      intro entry member
      rcases List.mem_cons.mp member with rfl | member
      · exact ⟨rfl, rfl⟩
      · cases mem_titleAttribute member
        exact ⟨rfl, rfl⟩
  | .image _ _ _ children => by
      apply forall_fromDocument (.of_texts rfl ?_) (fromDocument_ofInlines children)
      intro entry member
      rcases List.mem_cons.mp member with rfl | member
      · exact ⟨rfl, rfl⟩
      · rcases List.mem_cons.mp member with rfl | member
        · exact ⟨rfl, rfl⟩
        · cases mem_titleAttribute member
          exact ⟨rfl, rfl⟩

theorem fromDocument_ofInlines :
    ∀ inlines : List Inline, ∀ node ∈ allNodes (ofInlines inlines), node.FromDocument
  | [] => by
      intro node member
      contradiction
  | inline :: inlines => by
      intro node member
      rcases List.mem_append.mp member with member | member
      · exact fromDocument_ofInline inline node member
      · exact fromDocument_ofInlines inlines node member

end

theorem fromDocument_ofText (text : RunningText) :
    ∀ node ∈ (ofText text).nodes, node.FromDocument :=
  forall_fromDocument (.of_shape rfl rfl) (fromDocument_ofInlines text.inlines)

/-- A block whose only child is running text. -/
theorem forall_fromDocument_text {tree : Node} (root : tree.FromDocument) {text : RunningText}
    (single : tree.children = [ofText text]) : ∀ node ∈ tree.nodes, node.FromDocument := by
  apply forall_fromDocument root
  rw [single]
  simpa [allNodes] using fromDocument_ofText text

/-! ## Tables -/

theorem names_alignmentAttribute (alignment : ColumnAlignment) :
    ∀ entry ∈ alignmentAttribute alignment,
      attributeNames.contains entry.1 = true ∧ (entry.1 == "start") = false := by
  cases alignment <;> simp [alignmentAttribute, attributeNames]

theorem fromDocument_ofRow (tag : String) (shape : shapes.contains (.other tag, tag) = true)
    (alignments : List ColumnAlignment) (row : List RunningText) :
    ∀ node ∈ (ofRow tag alignments row).nodes, node.FromDocument := by
  apply forall_fromDocument (.of_shape rfl rfl)
  unfold ofRow element
  induction alignments generalizing row with
  | nil =>
      intro node member
      contradiction
  | cons alignment alignments ih =>
      cases row with
      | nil =>
          intro node member
          contradiction
      | cons text row =>
          intro node member
          rcases List.mem_append.mp member with member | member
          · have cell : FromDocument
                { element tag [ofText text] with attributes := alignmentAttribute alignment } :=
              .of_texts shape (names_alignmentAttribute alignment)
            exact forall_fromDocument_text cell rfl node member
          · exact ih row node member

theorem fromDocument_ofTable (alignments : List ColumnAlignment) (header : List RunningText)
    (rows : List (List RunningText)) :
    ∀ node ∈ (ofTable alignments header rows).nodes, node.FromDocument := by
  have head : ∀ node ∈ (element "thead" [ofRow "th" alignments header]).nodes,
      node.FromDocument := by
    apply forall_fromDocument (.of_shape rfl rfl)
    simpa [element, allNodes] using fromDocument_ofRow "th" rfl alignments header
  have body : ∀ node ∈ (element "tbody" (rows.map (ofRow "td" alignments))).nodes,
      node.FromDocument := by
    apply forall_fromDocument (.of_shape rfl rfl)
    intro node member
    obtain ⟨tree, treeMember, member⟩ := mem_allNodes_iff.mp member
    obtain ⟨row, -, rfl⟩ := List.mem_map.mp treeMember
    exact fromDocument_ofRow "td" rfl alignments row node member
  apply forall_fromDocument (.of_shape rfl rfl)
  intro node member
  obtain ⟨tree, treeMember, member⟩ := mem_allNodes_iff.mp member
  unfold ofTable at treeMember
  have parts : tree = element "thead" [ofRow "th" alignments header] ∨
      tree = element "tbody" (rows.map (ofRow "td" alignments)) := by
    cases rows with
    | nil => exact .inl (by simpa [element] using treeMember)
    | cons row rows => simpa [element] using treeMember
  rcases parts with rfl | rfl
  · exact head node member
  · exact body node member

/-! ## Blocks -/

theorem shapes_contains_heading (level : HeadingLevel) :
    shapes.contains (.heading, "h" ++ toString level.number) = true := by
  have six : ∀ number < 6, shapes.contains (.heading, "h" ++ toString (number + 1)) = true := by
    decide
  rcases level with ⟨number, one_le, le_six⟩
  obtain ⟨below, rfl⟩ := Nat.exists_eq_add_of_le' one_le
  exact six below (by omega)

/-- The number of an ordered list has at most nine digits. -/
theorem fromDocument_orderedList (start : ListStart) (children : List Node) :
    FromDocument
      { role := .orderedList, tag := "ol", block := true
        attributes := startAttribute start, children } where
  shape := rfl
  names := by
    unfold startAttribute
    split <;> simp [attributeNames]
  start value member := by
    unfold startAttribute at member
    split at member
    · contradiction
    · have small := start.isLt
      exact ⟨start.val, Number.isWritable_of_natAbs_lt small, by omega, by simpa using member⟩

mutual

theorem fromDocument_ofBlock :
    ∀ block : Block RunningText, ∀ node ∈ (ofBlock block).nodes, node.FromDocument
  | .paragraph _ _ => forall_fromDocument_text (.of_shape rfl rfl) rfl
  | .heading level _ =>
      forall_fromDocument_text (.of_shape (shapes_contains_heading level) rfl) rfl
  | .quote blocks =>
      forall_fromDocument (.of_shape rfl rfl) (fromDocument_ofBlocks blocks)
  | .bulletList items =>
      forall_fromDocument (.of_shape rfl rfl) (fromDocument_ofItems items)
  | .orderedList start items =>
      forall_fromDocument (fromDocument_orderedList start _) (fromDocument_ofItems items)
  | .fence _ _ => forall_fromDocument_leaf (.of_shape rfl rfl) rfl
  | .code _ => forall_fromDocument_leaf (.of_shape rfl rfl) rfl
  | .rule => forall_fromDocument_leaf (.of_shape rfl rfl) rfl
  | .table alignments header rows => fromDocument_ofTable alignments header rows

theorem fromDocument_ofBlocks :
    ∀ blocks : List (Block RunningText), ∀ node ∈ allNodes (ofBlocks blocks), node.FromDocument
  | [] => by
      intro node member
      contradiction
  | block :: blocks => by
      intro node member
      rcases List.mem_append.mp member with member | member
      · exact fromDocument_ofBlock block node member
      · exact fromDocument_ofBlocks blocks node member

theorem fromDocument_ofItems :
    ∀ items : List (List (Block RunningText)), ∀ node ∈ allNodes (ofItems items),
      node.FromDocument
  | [] => by
      intro node member
      contradiction
  | item :: items => by
      intro node member
      rcases List.mem_append.mp member with member | member
      · exact forall_fromDocument (.of_shape rfl rfl) (fromDocument_ofBlocks item) node
          member
      · exact fromDocument_ofItems items node member

end

/-- Every node of a document's tree has one of the shapes, with known attributes. -/
theorem fromDocument_ofDocument (document : Document) :
    ∀ node ∈ (ofDocument document).nodes, node.FromDocument :=
  forall_fromDocument (.of_shape rfl rfl) (fromDocument_ofBlocks document)

end Typeset.Node
