import Typeset.Article
import Typeset.Proofs.Tree.Postorder

/-!
# Lengths in rendered trees

Each kind of node is styled with lengths of its own: headings, quotations and lists with the
font size, body text with the line height as well, code with its two margins.  A node below an
image is styled with none, and neither is a hidden paragraph.

Main statement: two snapshots of the same colours lead to the same outcome, whether that is HTML
or an error, when they agree on the lengths of the nodes that are rendered.
-/

namespace Typeset

namespace Settings

/-- Two snapshots hold the same in some fields. -/
def AgreeOn (fields : Field → Prop) (settings other : Settings) : Prop :=
  ∀ field, fields field → field.get settings = field.get other

/-- Two snapshots hold the same in all but some fields. -/
def DifferOnlyIn (fields : List Field) (settings other : Settings) : Prop :=
  AgreeOn (· ∉ fields) settings other

variable {settings other : Settings} {fields : Field → Prop}

theorem AgreeOn.mono {more : Field → Prop} (agree : AgreeOn more settings other)
    (fewer : ∀ field, fields field → more field) : AgreeOn fields settings other :=
  fun field isField => agree field (fewer field isField)

end Settings

/-! ## Rules -/

namespace Styled

/-- The lengths with which a node is styled. -/
def lengths : Styled → List Field
  | heading .. | blockquote .. | list .. => [.fontSize]
  | paragraph _ hidden => if hidden then [] else [.fontSize, .lineHeight]
  | codeBlock .. => [.codeMarginTop, .codeMarginBottom]
  | inlineCode .. | strong .. | listItem .. | image .. | link .. | horizontalRule => []

/-- A rule reads the colours and the lengths of its node, and nothing else. -/
theorem html_congr {node : Styled} {settings other : Settings}
    (agree : Settings.AgreeOn (fun field => field.isLength = false ∨ field ∈ node.lengths)
      settings other) :
    node.html settings = node.html other := by
  have headingColor := Value.text.inj (agree .headingColor (.inl rfl))
  have boldColor := Value.text.inj (agree .boldColor (.inl rfl))
  have textColor := Value.text.inj (agree .textColor (.inl rfl))
  have codeBackground := Value.text.inj (agree .codeBackground (.inl rfl))
  have number : ∀ field ∈ node.lengths, field.get settings = field.get other :=
    fun field member => agree field (.inr member)
  -- With the colours the same, only the lengths that the rule reads are left to identify.
  cases settings
  cases other
  dsimp only at headingColor boldColor textColor codeBackground
  subst headingColor boldColor textColor codeBackground
  cases node with
  | heading level content =>
      cases number .fontSize List.mem_cons_self
      rfl
  | paragraph content hidden =>
      cases hidden with
      | true => simp only [html, if_true]
      | false =>
          cases number .fontSize List.mem_cons_self
          cases number .lineHeight (List.mem_cons_of_mem _ List.mem_cons_self)
          rfl
  | blockquote content =>
      cases number .fontSize List.mem_cons_self
      rfl
  | codeBlock code language =>
      cases number .codeMarginTop List.mem_cons_self
      cases number .codeMarginBottom (List.mem_cons_of_mem _ List.mem_cons_self)
      rfl
  | list ordered items start =>
      cases number .fontSize List.mem_cons_self
      rfl
  | inlineCode | strong | listItem | image | link | horizontalRule => rfl

end Styled

namespace Node

/-! ## Nodes -/

/-- The lengths with which a node is styled. -/
def lengths (node : Node) : List Field :=
  match node.role with
  | .heading | .blockquote | .bulletList | .orderedList => [.fontSize]
  | .paragraph => if node.hidden then [] else [.fontSize, .lineHeight]
  | .fence | .codeBlock => [.codeMarginTop, .codeMarginBottom]
  | _ => []

theorem lengths_of_styled? {node : Node} {inner : String} {styled : Styled}
    (styles : node.styled? inner = some (.ok styled)) : styled.lengths = node.lengths := by
  unfold styled? at styles
  unfold lengths
  cases role : node.role with
  | heading =>
      rw [role] at styles
      obtain ⟨level, -, rfl⟩ := map_eq_ok_iff.mp (Option.some.inj styles)
      rfl
  | orderedList =>
      rw [role] at styles
      obtain ⟨start, -, rfl⟩ := map_eq_ok_iff.mp (Option.some.inj styles)
      rfl
  | root | inline | text | softBreak | hardBreak | htmlBlock | htmlInline | other name =>
      rw [role] at styles
      contradiction
  | _ =>
      rw [role] at styles
      cases styles
      rfl

variable {settings other : Settings}

/-- A node with finished children is finished alike when the snapshots agree on its lengths. -/
theorem finish_congr {node : Node}
    (agree : Settings.AgreeOn (fun field => field.isLength = false ∨ field ∈ node.lengths)
      settings other) (inner : String) :
    finish .builtin settings node inner = finish .builtin other node inner := by
  unfold finish
  cases styles : node.styled? inner with
  | none => rfl
  | some built =>
      cases built with
      | error error => rfl
      | ok styled =>
          simp only [RuleTable.render_builtin]
          rw [← lengths_of_styled? styles] at agree
          exact Styled.html_congr agree

/-! ## Trees -/

/-- Trees are rendered alike if each of them is. -/
theorem renderAll_congr {table : RuleTable} {trees : List Node}
    (each : ∀ tree ∈ trees, tree.render table settings = tree.render table other) :
    renderAll table settings trees = renderAll table other trees := by
  induction trees with
  | nil => rfl
  | cons first others ih =>
      obtain ⟨firstSame, othersSame⟩ := List.forall_mem_cons.mp each
      rw [renderAll, renderAll, firstSame, ih othersSame]

/-- Trees whose nodes are finished alike are rendered alike. -/
theorem render_congr {table : RuleTable} {tree : Node}
    (alike : ∀ node ∈ tree.postorder, ∀ inner,
      finish table settings node inner = finish table other node inner) :
    tree.render table settings = tree.render table other := by
  induction tree using Node.induction with
  | step tree ih =>
      obtain ⟨below, root⟩ := forall_mem_postorder_iff.mp alike
      have children : renderAll table settings tree.renderedChildren =
          renderAll table other tree.renderedChildren := by
        apply renderAll_congr
        intro child member
        exact ih child (mem_children_of_mem_renderedChildren member) (below child member)
      rw [render_eq, render_eq, children]
      exact congrArg _ (funext root)

/-- The outcome for a tree depends on the colours, and on the lengths of the nodes that are
rendered. -/
theorem render_congr_of_agreeOn {tree : Node}
    (agree : Settings.AgreeOn
      (fun field => field.isLength = false ∨ ∃ node ∈ tree.postorder, field ∈ node.lengths)
      settings other) :
    tree.render .builtin settings = tree.render .builtin other := by
  apply render_congr
  intro node member
  apply finish_congr
  apply agree.mono
  rintro field (isColor | isLength)
  · exact .inl isColor
  · exact .inr ⟨node, member, isLength⟩

/-- Snapshots that differ in lengths of which no rendered node has any lead to the same
outcome. -/
theorem render_congr_of_differOnlyIn {tree : Node} {fields : List Field}
    (differ : Settings.DifferOnlyIn fields settings other)
    (areLengths : ∀ field ∈ fields, field.isLength = true)
    (unused : ∀ node ∈ tree.postorder, ∀ field ∈ fields, field ∉ node.lengths) :
    tree.render .builtin settings = tree.render .builtin other := by
  apply render_congr_of_agreeOn
  apply differ.mono
  rintro field (isColor | ⟨node, member, isLength⟩) listed
  · exact Bool.false_ne_true (isColor.symm.trans (areLengths field listed))
  · exact unused node member field listed isLength

/-- Lengths reach the nodes that they style and no others.  The margins of code change nothing in
a tree without code, the line height nothing in a tree whose paragraphs are all hidden, and the
font size nothing in one that has no headings, quotations and lists either; nodes below images
do not count.  The section around an article is the same for all settings. -/
theorem render_of_lengths (tree : Node) (settings other : Settings) :
    (Settings.DifferOnlyIn [.codeMarginTop, .codeMarginBottom] settings other →
      (∀ node ∈ tree.postorder, node.role ≠ .fence ∧ node.role ≠ .codeBlock) →
      tree.render .builtin settings = tree.render .builtin other) ∧
    (Settings.DifferOnlyIn [.lineHeight] settings other →
      (∀ node ∈ tree.postorder, node.role = .paragraph → node.hidden = true) →
      tree.render .builtin settings = tree.render .builtin other) ∧
    (Settings.DifferOnlyIn [.fontSize] settings other →
      (∀ node ∈ tree.postorder,
        node.role ∉ [.heading, .blockquote, .bulletList, .orderedList] ∧
          (node.role = .paragraph → node.hidden = true)) →
      tree.render .builtin settings = tree.render .builtin other) ∧
    ∃ before after : String, ∀ (table : RuleTable) (markdown : Value) (any : Settings),
      Article.html table markdown any =
        (Article.fragment table markdown any).map fun body => before ++ body ++ after := by
  refine ⟨?_, ?_, ?_, Article.opening ++ "\n", "\n</section>", fun _ _ _ => rfl⟩
  · intro differ noCode
    refine render_congr_of_differOnlyIn differ (by decide) ?_
    intro node member
    obtain ⟨noFence, noCodeBlock⟩ := noCode node member
    unfold lengths
    split <;> grind
  · intro differ allHidden
    refine render_congr_of_differOnlyIn differ (by decide) ?_
    intro node member
    have hidden := allHidden node member
    unfold lengths
    split <;> grind
  · intro differ noText
    refine render_congr_of_differOnlyIn differ (by decide) ?_
    intro node member
    obtain ⟨noBlock, hidden⟩ := noText node member
    unfold lengths
    split <;> grind

/-- An image labelled with a heading and code, and a hidden paragraph with a link, before a
horizontal rule. -/
def souvenir : Node where
  role := .root
  children :=
    [{ role := .image, children := [{ role := .heading, tag := "h1" }, { role := .fence }] },
      { role := .paragraph, hidden := true, children := [{ role := .link }] },
      { role := .horizontalRule }]

theorem render_of_lengths_souvenir :
    souvenir.render .builtin { codeMarginTop := .double .nan, codeMarginBottom := .int (-1) } =
        souvenir.render .builtin {} ∧
      souvenir.render .builtin { lineHeight := .double .nan } = souvenir.render .builtin {} ∧
      souvenir.render .builtin { fontSize := .int (Int.pow 10 400) } = souvenir.render .builtin {} := by
  refine ⟨(render_of_lengths souvenir _ _).1 ?_ (by decide),
    (render_of_lengths souvenir _ _).2.1 ?_ (by decide),
    (render_of_lengths souvenir _ _).2.2.1 ?_ (by decide)⟩
  · intro field unlisted
    cases field with
    | codeMarginTop | codeMarginBottom => exact absurd (by decide) unlisted
    | _ => rfl
  · intro field unlisted
    cases field with
    | lineHeight => exact absurd (by decide) unlisted
    | _ => rfl
  · intro field unlisted
    cases field with
    | fontSize => exact absurd (by decide) unlisted
    | _ => rfl

end Node

end Typeset
