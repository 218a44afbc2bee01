import Typeset.Proofs.Style.Renderable
import Typeset.Proofs.Tree.Rendered
import Typeset.Proofs.Tree.Vocabulary

/-!
# Rendering succeeds

The numbers that rendering takes from the nodes of a document are small: the
level of a heading and the number of a list's first item.  Nothing else can make
a rule fail once the settings can be rendered.
-/

namespace Typeset.Node

/-- The greatest number of nine digits. -/
def greatestStart : Int :=
  999999999

/-- Integers between zero and the greatest start. -/
def IsSmall (n : Int) : Prop :=
  0 ≤ n ∧ n ≤ greatestStart

instance (n : Int) : Decidable (IsSmall n) :=
  inferInstanceAs (Decidable (0 ≤ n ∧ n ≤ greatestStart))

theorem isWritable_of_isSmall {n : Int} (small : IsSmall n) : (Number.int n).isWritable = true := by
  apply Number.isWritable_of_natAbs_lt
  unfold IsSmall greatestStart at small
  omega

namespace FromDocument

variable {node : Node} (fromDocument : node.FromDocument)
include fromDocument

/-- A start attribute stands for an integer of at most nine digits. -/
theorem exists_integer_start {value : AttributeValue}
    (member : ("start", value) ∈ node.attributes) :
    ∃ n, value.integer = .ok n ∧ IsSmall n := by
  obtain ⟨n, -, small, rfl⟩ := fromDocument.start value member
  refine ⟨n, rfl, ?_⟩
  unfold IsSmall greatestStart
  omega

theorem exists_listStart : ∃ n, listStart node.attributes = .ok n ∧ IsSmall n := by
  unfold listStart
  cases found : node.attributes.lookup "start" with
  | none => exact ⟨1, rfl, by decide⟩
  | some value => exact fromDocument.exists_integer_start (mem_of_lookup_eq_some found)

theorem exists_headingLevel (heading : node.role = .heading) :
    ∃ n, headingLevel node.tag = .ok n ∧ IsSmall n := by
  rcases headingLevel_cases (fromDocument.tag_mem_headingTags heading) with
    ⟨-, leveled⟩ | ⟨-, leveled⟩ | ⟨-, -, level, above, below, leveled, -⟩
  · exact ⟨1, leveled, by decide⟩
  · exact ⟨2, leveled, by decide⟩
  · refine ⟨level, leveled, ?_⟩
    unfold IsSmall greatestStart
    omega

/-- The styled form of a node exists if its role has one, and its integers are
small. -/
theorem styled?_cases (inner : String) :
    node.styled? inner = none ∨
      ∃ styled, node.styled? inner = some (.ok styled) ∧ ∀ n ∈ styled.integers, IsSmall n := by
  unfold styled?
  cases role : node.role with
  | heading =>
      obtain ⟨level, leveled, small⟩ := fromDocument.exists_headingLevel role
      rw [leveled]
      exact .inr ⟨_, rfl, List.forall_mem_singleton.mpr small⟩
  | orderedList =>
      obtain ⟨start, started, small⟩ := fromDocument.exists_listStart
      rw [started]
      exact .inr ⟨_, rfl, List.forall_mem_singleton.mpr small⟩
  | bulletList => exact .inr ⟨_, rfl, List.forall_mem_singleton.mpr (by decide)⟩
  | root | inline | text | softBreak | hardBreak | htmlBlock | htmlInline | other name =>
      exact .inl rfl
  | _ => exact .inr ⟨_, rfl, List.forall_mem_nil _⟩

end FromDocument

variable {settings : Settings}

/-- A node of a document is rendered whatever the HTML of its children is. -/
theorem exists_finish_eq_ok (renderable : settings.Renderable) {node : Node}
    (fromDocument : node.FromDocument) (inner : String) :
    ∃ html, finish .builtin settings node inner = .ok html := by
  unfold finish
  rcases fromDocument.styled?_cases inner with plain | ⟨styled, found, small⟩
  · rw [plain]
    exact ⟨_, rfl⟩
  · rw [found]
    simp only [RuleTable.render_builtin]
    apply Styled.exists_html_eq_ok renderable
    intro n member
    exact isWritable_of_isSmall (small n member)

/-- Trees are rendered if each of them is. -/
theorem exists_renderAll_eq_ok {trees : List Node}
    (each : ∀ tree ∈ trees, ∃ html, tree.render .builtin settings = .ok html) :
    ∃ html, renderAll .builtin settings trees = .ok html := by
  induction trees with
  | nil => exact ⟨"", rfl⟩
  | cons first others ih =>
      obtain ⟨front, renderedFirst⟩ := each first List.mem_cons_self
      obtain ⟨rest, renderedOthers⟩ := ih fun tree member =>
        each tree (List.mem_cons_of_mem _ member)
      exact ⟨front ++ rest, renderAll_cons_eq_ok_iff.mpr
        ⟨front, renderedFirst, rest, renderedOthers, rfl⟩⟩

/-- The tree of a document is rendered. -/
theorem exists_render_eq_ok (renderable : settings.Renderable) {tree : Node}
    (fromDocument : ∀ node ∈ tree.nodes, node.FromDocument) :
    ∃ html, tree.render .builtin settings = .ok html := by
  induction tree using Node.induction with
  | step tree ih =>
      obtain ⟨root, below⟩ := forall_mem_nodes_iff.mp fromDocument
      have children : ∃ inner, (if tree.role = .image then .ok ""
          else renderAll .builtin settings tree.children) = .ok inner := by
        split
        · exact ⟨"", rfl⟩
        · apply exists_renderAll_eq_ok
          intro child member
          exact ih child member (below child member)
      obtain ⟨inner, renderedChildren⟩ := children
      obtain ⟨html, finished⟩ := exists_finish_eq_ok renderable root inner
      exact ⟨html, render_eq_ok_iff.mpr ⟨inner, renderedChildren, finished⟩⟩

end Typeset.Node
