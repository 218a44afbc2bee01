import Typeset.Tree.Render
import Typeset.Proofs.Basic

/-!
# The nodes of a tree

Statements about a tree are proved for each node from what holds of its
children.  The induction and the equations of rendering are stated here once.
-/

namespace Typeset

@[simp]
theorem RuleTable.render_builtin (node : Styled) (settings : Settings) :
    builtin.render node settings = node.html settings := by
  simp [render]

namespace Node

/-- What holds of a node when it holds of its children holds of every node. -/
@[elab_as_elim]
theorem induction {motive : Node → Prop}
    (step : ∀ node : Node, (∀ child ∈ node.children, motive child) → motive node)
    (node : Node) : motive node := by
  refine Node.rec (motive_2 := fun children => ∀ child ∈ children, motive child) ?_ ?_ ?_ node
  · intro role tag attributes content info hidden block children holds
    exact step _ holds
  · intro child member
    contradiction
  · intro first others holdsFirst holdsOthers child member
    rcases List.mem_cons.mp member with rfl | member
    · exact holdsFirst
    · exact holdsOthers child member

mutual

/-- A node and all nodes below it. -/
def nodes : Node → List Node
  | ⟨role, tag, attributes, content, info, hidden, block, children⟩ =>
      ⟨role, tag, attributes, content, info, hidden, block, children⟩ :: allNodes children

/-- The nodes of trees. -/
def allNodes : List Node → List Node
  | [] => []
  | node :: others => nodes node ++ allNodes others

end

theorem nodes_eq (node : Node) : node.nodes = node :: allNodes node.children := by
  cases node
  rfl

theorem mem_allNodes_iff {node : Node} {trees : List Node} :
    node ∈ allNodes trees ↔ ∃ tree ∈ trees, node ∈ tree.nodes := by
  induction trees with
  | nil => simp [allNodes]
  | cons first others ih => simp [allNodes, ih]

/-- What holds of all nodes of a tree holds of its root, and of all nodes of the
trees below it. -/
theorem forall_mem_nodes_iff {holds : Node → Prop} {tree : Node} :
    (∀ node ∈ tree.nodes, holds node) ↔
      holds tree ∧ ∀ child ∈ tree.children, ∀ node ∈ child.nodes, holds node := by
  rw [nodes_eq]
  simp only [List.mem_cons, mem_allNodes_iff]
  constructor
  · intro all
    refine ⟨all tree (.inl rfl), ?_⟩
    intro child childMember node member
    exact all node (.inr ⟨child, childMember, member⟩)
  · rintro ⟨root, below⟩ node (rfl | ⟨child, childMember, member⟩)
    · exact root
    · exact below child childMember node member

/-! ## Rendering -/

/-- A tree is rendered when its children are and the node with their HTML is. -/
theorem render_eq_ok_iff {table : RuleTable} {settings : Settings} {tree : Node}
    {html : String} :
    tree.render table settings = .ok html ↔
      ∃ inner, (if tree.role = .image then .ok "" else renderAll table settings tree.children) =
          .ok inner ∧
        finish table settings tree inner = .ok html := by
  rcases tree with ⟨role, tag, attributes, content, info, hidden, block, children⟩
  rw [← bind_eq_ok_iff, render]
  by_cases image : role = .image
  · simp only [image, if_true]
  · simp only [image, if_false]

theorem renderAll_cons_eq_ok_iff {table : RuleTable} {settings : Settings} {first : Node}
    {others : List Node} {html : String} :
    renderAll table settings (first :: others) = .ok html ↔
      ∃ front, first.render table settings = .ok front ∧
        ∃ rest, renderAll table settings others = .ok rest ∧ front ++ rest = html := by
  rw [renderAll, bind_eq_ok_iff]
  simp only [bind_eq_ok_iff, pure, Except.pure, Except.ok.injEq]

/-- Each of the trees that are rendered together is rendered. -/
theorem exists_render_of_renderAll {table : RuleTable} {settings : Settings} {trees : List Node}
    {html : String} (rendered : renderAll table settings trees = .ok html) {tree : Node}
    (member : tree ∈ trees) : ∃ front, tree.render table settings = .ok front := by
  induction trees generalizing html with
  | nil => contradiction
  | cons first others ih =>
      obtain ⟨front, renderedFirst, rest, renderedOthers, -⟩ :=
        renderAll_cons_eq_ok_iff.mp rendered
      rcases List.mem_cons.mp member with rfl | member
      · exact ⟨front, renderedFirst⟩
      · exact ih renderedOthers member

end Node

end Typeset
