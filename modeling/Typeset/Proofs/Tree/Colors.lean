import Typeset.Proofs.Style.Colors
import Typeset.Proofs.Tree.Nodes

/-!
# Colours in rendered trees

The HTML of a tree is a text around each of the four colours.  Its joints are
counted on the tree alone: every node that is not below an image says a colour as
often as the style of its role does.
-/

namespace Typeset.Node

open Typeset.Text

/-! ## Counting colours -/

/-- The roles of nodes that show nothing of their children: texts, code, breaks,
raw HTML and horizontal rules. -/
def isLeafRole : Role → Bool
  | .text | .inlineCode | .fence | .codeBlock | .softBreak | .hardBreak => true
  | .htmlBlock | .htmlInline | .horizontalRule => true
  | _ => false

mutual

/-- The nodes of a tree that are not below an image. -/
def shown : Node → List Node
  | ⟨role, tag, attributes, content, info, hidden, block, children⟩ =>
      ⟨role, tag, attributes, content, info, hidden, block, children⟩ ::
        (if role = .image then [] else allShown children)

/-- The nodes of trees that are not below an image. -/
def allShown : List Node → List Node
  | [] => []
  | node :: others => shown node ++ allShown others

end

/-- How often the style of a node says the colour of a field. -/
def colorUses (node : Node) (field : Field) : Nat :=
  match node.role with
  | .heading =>
      match headingLevel node.tag with
      | .ok level => (if level = 1 then 1 else 2) * field.joint .headingColor
      | .error _ => 0
  | .link => 2 * field.joint .headingColor
  | .blockquote | .horizontalRule => field.joint .headingColor
  | .strong => field.joint .boldColor
  | .paragraph => if node.hidden then 0 else field.joint .textColor
  | .bulletList | .orderedList => field.joint .textColor
  | .fence | .codeBlock => field.joint .codeBackground
  | _ => 0

/-- How often some nodes say the colour of a field. -/
def colorJoints (field : Field) : List Node → Nat
  | [] => 0
  | node :: nodes => node.colorUses field + colorJoints field nodes

theorem shown_eq (node : Node) :
    node.shown = node :: (if node.role = .image then [] else allShown node.children) := by
  cases node
  rfl

theorem colorJoints_cons (field : Field) (node : Node) (nodes : List Node) :
    colorJoints field (node :: nodes) = node.colorUses field + colorJoints field nodes :=
  rfl

theorem colorJoints_append (field : Field) (first second : List Node) :
    colorJoints field (first ++ second) = colorJoints field first + colorJoints field second := by
  induction first with
  | nil => simp [colorJoints]
  | cons node first ih => rw [List.cons_append, colorJoints, colorJoints, ih, Nat.add_assoc]

/-! ## Rendering around a colour -/

variable {settings : Settings} {field : Field} {inner html : String} {text : String → String}
  {joints : Nat}

/-- A plain element around a text adds no joints. -/
theorem joins_plainElement (node : Node) (joins : Joins joints text) :
    Joins joints fun colour => plainElement node (text colour) := by
  have attributes : Joins 0 fun _ => plainAttributes node.attributes := .fixed _
  have element := Styled.joins_element node.tag attributes joins
  have lines := Styled.joins_element node.tag attributes (joins.after "\n")
  rw [Nat.zero_add] at element lines
  unfold plainElement
  dsimp only
  split
  · exact element
  · split
    · exact element.before "\n"
    · exact lines.before "\n"

/-- A node without joints of its own that shows its children. -/
theorem joins_inner {node : Node} (plain : node.colorUses field = 0) (joins : Joins joints text) :
    Joins (node.colorUses field + joints) text := by
  rw [plain, Nat.zero_add]
  exact joins

/-- A node is rendered around a colour if its children are: it adds its own joints
to those of its children. -/
theorem exists_finish_withColor {node : Node}
    (finished : finish .builtin settings node inner = .ok html) (joins : Joins joints text)
    (leaf : isLeafRole node.role = true ∨ node.role = .image → joints = 0) :
    ∃ written, Joins (node.colorUses field + joints) written ∧
      ∀ colour, finish .builtin (settings.withColor field colour) node (text colour) =
        .ok (written colour) := by
  rcases node with ⟨role, tag, attributes, content, info, hidden, block, children⟩
  cases role with
  | root | inline => exact ⟨text, joins_inner rfl joins, fun _ => rfl⟩
  | text | htmlBlock | htmlInline | softBreak | hardBreak | inlineCode =>
      rw [leaf (.inl rfl)]
      exact ⟨fun _ => html, .fixed html, fun _ => finished⟩
  | image =>
      rw [leaf (.inr rfl)]
      exact ⟨fun _ => html, .fixed html, fun _ => finished⟩
  | heading =>
      cases leveled : headingLevel tag with
      | error fault => simp [finish, styled?, leveled, Except.map] at finished
      | ok level =>
          simp only [finish, styled?, leveled, Except.map, RuleTable.render_builtin] at finished
          obtain ⟨size, sized, finished⟩ := bind_eq_ok_iff.mp finished
          obtain ⟨_, writable, -⟩ := bind_eq_ok_iff.mp finished
          refine ⟨fun colour => Styled.headingHtml level (text colour) size
            (settings.withColor field colour), ?_, ?_⟩
          · simpa only [colorUses, leveled] using
              Styled.joins_headingHtml settings field level size joins
          · intro colour
            simp only [finish, styled?, leveled, Except.map, RuleTable.render_builtin]
            rw [← Style.headingSize_withColor settings field colour] at sized
            exact bind_eq_ok_iff.mpr ⟨size, sized, bind_eq_ok_iff.mpr ⟨_, writable, rfl⟩⟩
  | paragraph =>
      cases hidden with
      | true => exact ⟨text, joins_inner rfl joins, fun _ => rfl⟩
      | false =>
          obtain ⟨_, writable, -⟩ := bind_eq_ok_iff.mp finished
          have style := Styled.joins_styleAttribute (Style.joins_paragraph settings field)
          refine ⟨_, (Styled.joins_element "p" style joins).before "\n", ?_⟩
          intro colour
          rw [← Style.paragraphNumbers_withColor settings field colour] at writable
          exact bind_eq_ok_iff.mpr ⟨_, writable, rfl⟩
  | blockquote =>
      obtain ⟨size, sized, -⟩ := bind_eq_ok_iff.mp finished
      have style := Styled.joins_styleAttribute (Styled.joins_quoteStyle settings field size)
      refine ⟨_, (Styled.joins_element "blockquote" style joins).before "\n", ?_⟩
      intro colour
      rw [← Style.quoteSize_withColor settings field colour] at sized
      exact bind_eq_ok_iff.mpr ⟨size, sized, rfl⟩
  | fence | codeBlock =>
      obtain ⟨_, writable, -⟩ := bind_eq_ok_iff.mp finished
      have style := Styled.joins_styleAttribute (Style.joins_codeBlock settings field)
      have code : Joins 0 fun _ => Styled.element "code" "" (Text.escape content) := .fixed _
      rw [leaf (.inl rfl)]
      refine ⟨_, (Styled.joins_element "pre" style code).before "\n", ?_⟩
      intro colour
      rw [← Style.codeBlockNumbers_withColor settings field colour] at writable
      exact bind_eq_ok_iff.mpr ⟨_, writable, rfl⟩
  | strong =>
      have style := Styled.joins_styleAttribute (Styled.joins_strongStyle settings field)
      exact ⟨_, Styled.joins_element "strong" style joins, fun _ => rfl⟩
  | bulletList => exact Styled.exists_html_list_withColor finished joins
  | orderedList =>
      cases started : listStart attributes with
      | error fault => simp [finish, styled?, started, Except.map] at finished
      | ok start =>
          simp only [finish, styled?, started, Except.map, RuleTable.render_builtin] at finished ⊢
          exact Styled.exists_html_list_withColor finished joins
  | listItem =>
      have style : Joins 0 fun _ => Styled.styleAttribute Styled.listItemStyle := .fixed _
      exact ⟨_, (Styled.joins_element "li" style joins).before "\n", fun _ => rfl⟩
  | link =>
      have style := Styled.joins_styleAttribute (Styled.joins_linkStyle settings field)
      have target := style.after (Styled.attributeText "href" (attributeShown attributes "href") ++
        Styled.titleAttribute (attributeText? attributes "title"))
      exact ⟨_, Styled.joins_element "a" target joins, fun _ => rfl⟩
  | horizontalRule =>
      have style := Styled.joins_styleAttribute (Styled.joins_horizontalRuleStyle settings field)
      rw [leaf (.inl rfl)]
      exact ⟨_, (style.after "<hr").before " />\n", fun _ => rfl⟩
  | other name =>
      by_cases empty : tag.isEmpty = true
      · refine ⟨text, joins_inner rfl joins, ?_⟩
        intro colour
        simp [finish, styled?, plain, empty]
      · let node : Node := ⟨.other name, tag, attributes, content, info, hidden, block, children⟩
        refine ⟨fun colour => plainElement node (text colour),
          joins_inner rfl (joins_plainElement node joins), ?_⟩
        intro colour
        simp only [finish, styled?, plain, empty]
        rfl

/-- A tree is rendered with every colour in a field, and its HTML is a text around
that colour. -/
def RendersAround (settings : Settings) (field : Field) (tree : Node) : Prop :=
  ∃ text, Joins (colorJoints field tree.shown) text ∧
    ∀ colour, tree.render .builtin (settings.withColor field colour) = .ok (text colour)

/-- Trees are rendered around a colour if each of them is. -/
theorem exists_renderAll_withColor {trees : List Node}
    (each : ∀ tree ∈ trees, tree.RendersAround settings field) :
    ∃ text, Joins (colorJoints field (allShown trees)) text ∧
      ∀ colour, renderAll .builtin (settings.withColor field colour) trees = .ok (text colour) := by
  induction trees with
  | nil => exact ⟨fun _ => "", .fixed "", fun _ => rfl⟩
  | cons first others ih =>
      obtain ⟨front, joinsFront, renderedFront⟩ := each first List.mem_cons_self
      obtain ⟨back, joinsBack, renderedBack⟩ := ih fun tree member =>
        each tree (List.mem_cons_of_mem _ member)
      refine ⟨fun colour => front colour ++ back colour, ?_, ?_⟩
      · rw [allShown, colorJoints_append]
        exact joinsFront.append joinsBack
      · intro colour
        exact renderAll_cons_eq_ok_iff.mpr
          ⟨_, renderedFront colour, _, renderedBack colour, rfl⟩

/-- A tree that is rendered with one colour is rendered around every colour. -/
theorem rendersAround_of_render {tree : Node}
    (leaves : ∀ node ∈ tree.nodes, isLeafRole node.role = true → node.children = [])
    (rendered : tree.render .builtin settings = .ok html) : tree.RendersAround settings field := by
  induction tree using Node.induction generalizing html with
  | step tree ih =>
      obtain ⟨leaf, below⟩ := forall_mem_nodes_iff.mp leaves
      obtain ⟨inner, renderedChildren, finished⟩ := render_eq_ok_iff.mp rendered
      by_cases image : tree.role = .image
      · obtain ⟨written, joins, finishes⟩ :=
          exists_finish_withColor finished (.fixed "") fun _ => rfl
        refine ⟨written, ?_, ?_⟩
        · rw [shown_eq, if_pos image, colorJoints_cons]
          exact joins
        · intro colour
          exact render_eq_ok_iff.mpr ⟨"", if_pos image, finishes colour⟩
      · rw [if_neg image] at renderedChildren
        have children : ∀ child ∈ tree.children, child.RendersAround settings field := by
          intro child member
          obtain ⟨front, renderedChild⟩ := exists_render_of_renderAll renderedChildren member
          exact ih child member (below child member) renderedChild
        obtain ⟨text, joins, renders⟩ := exists_renderAll_withColor children
        have none : isLeafRole tree.role = true ∨ tree.role = .image →
            colorJoints field (allShown tree.children) = 0 := by
          rintro (isLeaf | isImage)
          · rw [leaf isLeaf]
            rfl
          · exact absurd isImage image
        obtain ⟨written, joined, finishes⟩ := exists_finish_withColor finished joins none
        refine ⟨written, ?_, ?_⟩
        · rw [shown_eq, if_neg image, colorJoints_cons]
          exact joined
        · intro colour
          refine render_eq_ok_iff.mpr ⟨text colour, ?_, finishes colour⟩
          rw [if_neg image]
          exact renders colour

/-- The HTML of a tree is a list of fixed pieces joined by the colour of a field,
whatever that colour is.  The joints are counted on the nodes that are not below an
image: two for a link and for a heading below the first level; one for a heading of
the first level, a quotation and a horizontal rule in the heading colour; one for bold
text, for a paragraph or a list, and for a code block in each of the other colours. -/
theorem render_withColor {tree : Node}
    (leaves : ∀ node ∈ tree.nodes, isLeafRole node.role = true → node.children = [])
    (rendered : tree.render .builtin settings = .ok html) (field : Field) :
    ∃ pieces : List String, pieces.length = colorJoints field tree.shown + 1 ∧
      ∀ colour, tree.render .builtin (settings.withColor field colour) =
        .ok (colour.intercalate pieces) := by
  obtain ⟨text, ⟨pieces, length, joined⟩, renders⟩ := rendersAround_of_render leaves rendered
  refine ⟨pieces, length, ?_⟩
  intro colour
  rw [renders, joined]

/-- A heading with a link, a quotation of a hidden paragraph with bold text, an image
of a link and a horizontal rule. -/
def palette : Node where
  role := .root
  children :=
    [{ role := .heading, tag := "h3", block := true
       children := [{ role := .link, tag := "a", attributes := [("href", .text "#1e88e5")] }] },
      { role := .blockquote, tag := "blockquote", block := true
        children :=
          [{ role := .paragraph, tag := "p", hidden := true, block := true
             children := [{ role := .strong, tag := "strong" }] }] },
      { role := .image, tag := "img", children := [{ role := .link, tag := "a" }] },
      { role := .horizontalRule, tag := "hr", block := true }]

theorem render_withColor_palette :
    ∃ pieces : List String, pieces.length = 7 ∧
      ∀ colour, palette.render .builtin (Settings.withColor {} .headingColor colour) =
        .ok (colour.intercalate pieces) := by
  have leaves : ∀ node ∈ palette.nodes, isLeafRole node.role = true → node.children = [] := by
    decide
  have renders : (palette.render .builtin {}).isOk = true := by decide +kernel
  obtain ⟨html, rendered⟩ := isOk_iff.mp renders
  exact render_withColor leaves rendered .headingColor

end Typeset.Node
