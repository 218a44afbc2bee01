import Typeset.Proofs.Tree.Nodes

/-!
# Trees in post-order

The nodes of a tree are finished one after the other: children before their parent, from
left to right, and none below an image.  When it is known which texts the rules return, in
the order in which the nodes that need a rule are finished, the HTML of every node is known
as well, and so is what every rule receives.
-/

namespace Typeset.Node

/-- Whether a node needs a rule. -/
def isRuled (node : Node) : Bool :=
  (kindOf? node.role).isSome

/-- The children that are rendered: an image has none. -/
def renderedChildren (node : Node) : List Node :=
  if node.role = .image then [] else node.children

mutual

/-- The nodes of a tree in the order in which they are finished. -/
def postorder : Node → List Node
  | ⟨role, tag, attributes, content, info, hidden, block, children⟩ =>
      (if role = .image then [] else allPostorder children) ++
        [⟨role, tag, attributes, content, info, hidden, block, children⟩]

/-- The nodes of trees in the order in which they are finished. -/
def allPostorder : List Node → List Node
  | [] => []
  | node :: nodes => postorder node ++ allPostorder nodes

end

/-- How many nodes of a tree need a rule. -/
def ruleCount (tree : Node) : Nat :=
  tree.postorder.countP isRuled

mutual

/-- The HTML of a tree whose rules return some texts, one for each node that needs a rule.
The root comes last, so the last text is its own. -/
def written (texts : List String) : Node → String
  | ⟨role, tag, attributes, content, info, hidden, block, children⟩ =>
      if (kindOf? role).isSome then texts.getLastD ""
      else
        plain ⟨role, tag, attributes, content, info, hidden, block, children⟩
          (allWritten texts children)

/-- The HTML of trees side by side: each takes as many of the texts as it has nodes that
need a rule. -/
def allWritten (texts : List String) : List Node → String
  | [] => ""
  | node :: nodes =>
      written (texts.take node.ruleCount) node ++ allWritten (texts.drop node.ruleCount) nodes

end

mutual

/-- The nodes of a tree in the order in which they are finished, each with the HTML of its
children. -/
def visits (texts : List String) : Node → List (Node × String)
  | ⟨role, tag, attributes, content, info, hidden, block, children⟩ =>
      let node : Node := ⟨role, tag, attributes, content, info, hidden, block, children⟩
      if role = .image then [(node, "")]
      else allVisits texts children ++ [(node, allWritten texts children)]

/-- The nodes of trees side by side, each with the HTML of its children. -/
def allVisits (texts : List String) : List Node → List (Node × String)
  | [] => []
  | node :: nodes =>
      visits (texts.take node.ruleCount) node ++ allVisits (texts.drop node.ruleCount) nodes

end

/-! ## Equations -/

theorem postorder_eq (node : Node) :
    node.postorder = allPostorder node.renderedChildren ++ [node] := by
  rcases node with ⟨role, tag, attributes, content, info, hidden, block, children⟩
  by_cases image : role = .image
  · simp only [postorder, renderedChildren, image, if_true, allPostorder]
  · simp only [postorder, renderedChildren, image, if_false]

theorem visits_eq (texts : List String) (node : Node) :
    node.visits texts = allVisits texts node.renderedChildren ++
      [(node, allWritten texts node.renderedChildren)] := by
  rcases node with ⟨role, tag, attributes, content, info, hidden, block, children⟩
  by_cases image : role = .image
  · simp only [visits, renderedChildren, image, if_true, allVisits, allWritten, List.nil_append]
  · simp only [visits, renderedChildren, image, if_false]

/-- The HTML of a node that needs a rule is what its rule returns. -/
theorem written_of_isRuled {node : Node} (ruled : node.isRuled = true) (texts : List String)
    (text : String) : node.written (texts ++ [text]) = text := by
  cases node
  have needed := ruled
  unfold isRuled at needed
  simp [written, needed]

/-- Every other node is written around the HTML of its children. -/
theorem written_of_not_isRuled {node : Node} (unruled : node.isRuled = false)
    (texts : List String) :
    node.written texts = node.plain (allWritten texts node.renderedChildren) := by
  rcases node with ⟨role, tag, attributes, content, info, hidden, block, children⟩
  have notImage : role ≠ .image := by
    rintro rfl
    contradiction
  unfold isRuled at unruled
  simp [written, renderedChildren, unruled, notImage]

theorem render_eq (table : RuleTable) (settings : Settings) (tree : Node) :
    tree.render table settings =
      renderAll table settings tree.renderedChildren >>= finish table settings tree := by
  rcases tree with ⟨role, tag, attributes, content, info, hidden, block, children⟩
  by_cases image : role = .image
  · simp only [render, renderedChildren, image, if_true, renderAll]
  · simp only [render, renderedChildren, image, if_false]

theorem mem_children_of_mem_renderedChildren {node child : Node}
    (member : child ∈ node.renderedChildren) : child ∈ node.children := by
  unfold renderedChildren at member
  split at member
  · contradiction
  · exact member

theorem mem_allPostorder_iff {node : Node} {trees : List Node} :
    node ∈ allPostorder trees ↔ ∃ tree ∈ trees, node ∈ tree.postorder := by
  induction trees with
  | nil => simp [allPostorder]
  | cons first others ih => simp [allPostorder, ih]

/-- What holds of all finished nodes of a tree holds of its root, and of those of the rendered
trees below it. -/
theorem forall_mem_postorder_iff {holds : Node → Prop} {tree : Node} :
    (∀ node ∈ tree.postorder, holds node) ↔
      (∀ child ∈ tree.renderedChildren, ∀ node ∈ child.postorder, holds node) ∧ holds tree := by
  rw [postorder_eq, List.forall_mem_append, List.forall_mem_singleton]
  simp only [mem_allPostorder_iff]
  constructor
  · rintro ⟨below, root⟩
    exact ⟨fun child childMember node member => below node ⟨child, childMember, member⟩, root⟩
  · rintro ⟨below, root⟩
    refine ⟨?_, root⟩
    rintro node ⟨child, childMember, member⟩
    exact below child childMember node member

theorem allPostorder_cons (first : Node) (others : List Node) :
    allPostorder (first :: others) = first.postorder ++ allPostorder others :=
  rfl

/-! ## Counting -/

mutual

/-- The order of the visits does not depend on the texts. -/
theorem map_fst_visits :
    ∀ (tree : Node) (texts : List String), (tree.visits texts).map Prod.fst = tree.postorder
  | ⟨role, tag, attributes, content, info, hidden, block, children⟩, texts => by
      by_cases image : role = .image
      · simp only [visits, postorder, image, if_true, List.map_cons, List.map_nil, List.nil_append]
      · simp only [visits, postorder, image, if_false, List.map_append, List.map_cons,
          List.map_nil, map_fst_allVisits children texts]

theorem map_fst_allVisits :
    ∀ (trees : List Node) (texts : List String),
      (allVisits texts trees).map Prod.fst = allPostorder trees
  | [], _ => rfl
  | first :: others, texts => by
      rw [allVisits, allPostorder, List.map_append, map_fst_visits first, map_fst_allVisits others]

end

theorem countP_allPostorder_cons (first : Node) (others : List Node) :
    (allPostorder (first :: others)).countP isRuled =
      first.ruleCount + (allPostorder others).countP isRuled := by
  rw [allPostorder_cons, List.countP_append]
  rfl

/-- The first of some trees takes its texts, and leaves the others to the trees after it. -/
theorem allWritten_cons_append {first : Node} {texts : List String}
    (exact : texts.length = first.ruleCount) (others : List Node) (more : List String) :
    allWritten (texts ++ more) (first :: others) =
      first.written texts ++ allWritten more others := by
  rw [allWritten, List.take_left' exact, List.drop_left' exact]

theorem allVisits_cons_append {first : Node} {texts : List String}
    (exact : texts.length = first.ruleCount) (others : List Node) (more : List String) :
    allVisits (texts ++ more) (first :: others) = first.visits texts ++ allVisits more others := by
  rw [allVisits, List.take_left' exact, List.drop_left' exact]

/-- Texts after those of some trees change neither their HTML nor what their nodes
receive. -/
theorem allWritten_append_and_allVisits_append {trees : List Node} {texts : List String}
    (enough : (allPostorder trees).countP isRuled ≤ texts.length) (more : List String) :
    allWritten (texts ++ more) trees = allWritten texts trees ∧
      allVisits (texts ++ more) trees = allVisits texts trees := by
  induction trees generalizing texts with
  | nil => exact ⟨rfl, rfl⟩
  | cons first others ih =>
      rw [countP_allPostorder_cons] at enough
      have firstEnough : first.ruleCount ≤ texts.length := by omega
      have othersEnough : (allPostorder others).countP isRuled ≤
          (texts.drop first.ruleCount).length := by
        rw [List.length_drop]
        omega
      obtain ⟨sameWritten, sameVisits⟩ := ih othersEnough
      rw [allWritten, allWritten, allVisits, allVisits, List.take_append_of_le_length firstEnough,
        List.drop_append_of_le_length firstEnough, sameWritten, sameVisits]
      exact ⟨rfl, rfl⟩

end Typeset.Node
