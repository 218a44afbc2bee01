import Typeset.Proofs.Html.Nesting
import Typeset.Proofs.Tree.OfDocument
import Typeset.Proofs.Tree.Tokens

/-!
# The vocabulary of a document's HTML

The tags and attributes of a rendered document come from two fixed lists.  They
follow from the shapes of its nodes alone, so nothing that is written in the
document adds a name.  The tags are balanced in the HTML of any tree.
-/

namespace Typeset

namespace Node

open Typeset.Html

/-- The names of tags in rendered documents. -/
def tagNames : List String :=
  ["section", "span", "h1", "h3", "h4", "h5", "h6", "p", "blockquote", "pre", "code", "strong",
    "ol", "ul", "li", "img", "a", "hr", "em", "s", "br", "table", "thead", "tbody", "tr", "th",
    "td"]

/-- Whether all attributes have known names. -/
def areKnown (attributes : List Attribute) : Bool :=
  attributes.all fun entry => attributeNames.contains entry.1

/-- Whether a token is a text, or a tag whose names are known. -/
def isKnown (token : Token) : Bool :=
  token.name?.all tagNames.contains && areKnown token.attributes

/-- The names of a known token are in the lists. -/
theorem isKnown_iff {token : Token} :
    isKnown token = true ↔
      (∀ name, token.name? = some name → name ∈ tagNames) ∧
        ∀ entry ∈ token.attributes, entry.1 ∈ attributeNames := by
  simp [isKnown, areKnown, Option.all_eq_true]

/-- Joining texts adds no names. -/
theorem isKnown_of_mem_join {tokens : List Token} (known : tokens.all isKnown = true)
    {token : Token} (member : token ∈ join tokens) : isKnown token = true := by
  by_cases isTag : token.isTag = true
  · exact List.all_eq_true.mp known token ((mem_join_iff isTag tokens).mp member)
  · cases token with
    | text content => rfl
    | _ => exact absurd rfl isTag

/-! ## Shapes -/

namespace FromDocument

variable {node : Node} (fromDocument : node.FromDocument)
include fromDocument

/-- What holds of all shapes holds of the role and the tag of a node. -/
theorem of_all_shapes {holds : Role × String → Bool} (all : shapes.all holds = true) :
    holds (node.role, node.tag) = true :=
  List.all_eq_true.mp all _ (List.contains_iff_mem.mp fromDocument.shape)

theorem tag_mem_headingTags (heading : node.role = .heading) : node.tag ∈ headingTags := by
  have all : shapes.all (fun shape =>
      decide (shape.1 = .heading → shape.2 ∈ headingTags)) = true := by decide
  exact of_decide_eq_true (fromDocument.of_all_shapes all) heading

/-- No node of a document stands for raw HTML. -/
theorem role_ne_html : node.role.name ≠ "html_block" ∧ node.role.name ≠ "html_inline" := by
  have all : shapes.all (fun shape =>
      decide (shape.1.name ≠ "html_block" ∧ shape.1.name ≠ "html_inline")) = true := by decide
  exact of_decide_eq_true (fromDocument.of_all_shapes all)

/-- The nodes of a document can be written as HTML. -/
theorem wellFormed : node.WellFormed where
  tag := by
    have all : shapes.all (fun shape => decide (kindOf? shape.1 = none →
        shape.2 = "" ∨ isTagName shape.2 = true)) = true := by decide
    exact of_decide_eq_true (fromDocument.of_all_shapes all)
  attributeNames := by
    intro entry member
    have all : attributeNames.all isAttributeName = true := by decide
    exact List.all_eq_true.mp all _ (List.contains_iff_mem.mp (fromDocument.names entry member))
  headingTag := fromDocument.tag_mem_headingTags
  start := by
    intro value member
    obtain ⟨n, writable, -, rfl⟩ := fromDocument.start value member
    exact ⟨n, writable, rfl⟩

end FromDocument

/-! ## Names -/

variable {settings : Settings} {inner : List Token}

/-- An element with known names around known tokens. -/
theorem isKnown_enclose {name : String} {attributes : List Attribute}
    (names : isKnown (.opening name attributes) = true) (known : inner.all isKnown = true) :
    (enclose name attributes inner).all isKnown = true := by
  have closing : isKnown (.closing name) = true := by
    rw [isKnown, Bool.and_eq_true] at names
    exact Bool.and_eq_true_iff.mpr ⟨names.1, rfl⟩
  simp [enclose, names, known, closing]

theorem isKnown_line {tokens : List Token} (known : tokens.all isKnown = true) :
    (tokens ++ lineEnd).all isKnown = true := by
  have lineFeed : lineEnd.all isKnown = true := by decide
  rw [List.all_append, known, lineFeed]
  rfl

theorem isKnown_ownLines (known : inner.all isKnown = true) :
    (lineEnd ++ inner).all isKnown = true := by
  rw [List.all_append, known]
  rfl

theorem areKnown_append (first second : List Attribute) :
    areKnown (first ++ second) = (areKnown first && areKnown second) :=
  List.all_append

theorem areKnown_titleOf (title : Option String) :
    areKnown (titleOf title) = true := by
  unfold titleOf
  split
  · rfl
  · split <;> rfl

theorem areKnown_startOf (attributes : List (String × AttributeValue)) :
    areKnown (startOf attributes) = true := by
  unfold startOf
  split
  · split <;> rfl
  · rfl

theorem isKnown_headingTokens {tag : String} (member : tag ∈ headingTags)
    (known : inner.all isKnown = true) :
    (headingTokens tag settings inner).all isKnown = true := by
  unfold headingTokens
  split
  · exact isKnown_line (isKnown_enclose rfl known)
  · split
    · exact isKnown_line (isKnown_enclose rfl (isKnown_enclose rfl known))
    · rename_i notFirst notSecond
      have named : ∀ tag ∈ headingTags, tag ≠ "h2" → tagNames.contains tag = true := by decide
      have names : ∀ declarations, isKnown (.opening tag [styleOf declarations]) = true := by
        intro declarations
        rw [isKnown, Token.name?, Option.all_some, named tag member notSecond]
        rfl
      exact isKnown_line (isKnown_enclose (names _) known)

/-- The tokens of a node without a styled form. -/
theorem isKnown_plainTokens {node : Node} (fromDocument : node.FromDocument) {name : String}
    (unstyled : node.role = .other name) (known : inner.all isKnown = true) :
    (plainTokens node inner).all isKnown = true := by
  have all : shapes.all (fun shape => decide ((kindOf? shape.1 = none ∧ shape.2 ≠ "") →
      tagNames.contains shape.2 = true)) = true := by decide
  have named := of_decide_eq_true (fromDocument.of_all_shapes all)
  unfold plainTokens
  by_cases empty : node.tag = ""
  · simpa [empty] using known
  · have nonempty : node.tag.isEmpty = false := by simpa using empty
    have names : isKnown (.opening node.tag (shownAttributes node.attributes)) = true := by
      have tag := named ⟨by rw [unstyled]; rfl, empty⟩
      have attributes : areKnown (shownAttributes node.attributes) = true := by
        rw [areKnown, shownAttributes, List.all_map]
        exact List.all_eq_true.mpr fromDocument.names
      rw [isKnown, Token.name?, Option.all_some, tag, Token.attributes, attributes]
      rfl
    simp only [nonempty, Bool.false_eq_true, if_false]
    split
    · exact isKnown_enclose names known
    · split
      · exact isKnown_line (isKnown_enclose names known)
      · exact isKnown_line (isKnown_enclose names (isKnown_ownLines known))

/-- A node of a document adds known tokens to those of its children. -/
theorem isKnown_tokensAround {node : Node} (fromDocument : node.FromDocument)
    (known : inner.all isKnown = true) :
    (tokensAround settings node inner).all isKnown = true := by
  unfold tokensAround
  cases role : node.role with
  | root | inline => exact known
  | text | htmlBlock | htmlInline | softBreak | hardBreak => rfl
  | horizontalRule => rfl
  | heading => exact isKnown_headingTokens (fromDocument.tag_mem_headingTags role) known
  | paragraph =>
      simp only
      split
      · exact known
      · exact isKnown_line (isKnown_enclose rfl known)
  | blockquote | listItem => exact isKnown_line (isKnown_enclose rfl known)
  | fence | codeBlock =>
      exact isKnown_line (isKnown_enclose rfl (isKnown_enclose rfl rfl))
  | inlineCode => exact isKnown_enclose rfl rfl
  | strong => exact isKnown_enclose rfl known
  | bulletList => exact isKnown_line (isKnown_enclose rfl (isKnown_ownLines known))
  | orderedList =>
      refine isKnown_line (isKnown_enclose ?_ (isKnown_ownLines known))
      rw [isKnown, Token.attributes, areKnown_append, areKnown_startOf]
      rfl
  | image =>
      rw [List.all_cons, isKnown, Token.attributes, areKnown_append, areKnown_append,
        areKnown_titleOf]
      rfl
  | link =>
      refine isKnown_enclose ?_ known
      rw [isKnown, Token.attributes, ← List.singleton_append, areKnown_append, areKnown_append,
        areKnown_titleOf]
      rfl
  | other name => exact isKnown_plainTokens fromDocument role known

/-- The tags and attributes in the HTML of a document's tree have known names. -/
theorem isKnown_tokens {tree : Node} (fromDocument : ∀ node ∈ tree.nodes, node.FromDocument) :
    (tree.tokens settings).all isKnown = true := by
  refine @tokens_induction settings (fun tokens => tokens.all isKnown = true) rfl ?_ tree ?_
  · intro first second knownFirst knownSecond
    rw [List.all_append, knownFirst, knownSecond]
    rfl
  · intro node member inner known
    exact isKnown_tokensAround (fromDocument node member) known

/-! ## Nesting -/

theorem balanced_line {tokens : List Token} (balanced : Balanced tokens) :
    Balanced (tokens ++ lineEnd) :=
  balanced.append (.text "\n")

theorem balanced_enclose (name : String) (attributes : List Attribute) (balanced : Balanced inner) :
    Balanced (enclose name attributes inner) :=
  balanced.element name attributes

theorem balanced_headingTokens (tag : String) (balanced : Balanced inner) :
    Balanced (headingTokens tag settings inner) := by
  unfold headingTokens
  split
  · exact balanced_line (balanced_enclose _ _ balanced)
  · split
    · exact balanced_line (balanced_enclose _ _ (balanced_enclose _ _ balanced))
    · exact balanced_line (balanced_enclose _ _ balanced)

theorem balanced_plainTokens (node : Node) (balanced : Balanced inner) :
    Balanced (plainTokens node inner) := by
  unfold plainTokens
  simp only
  split
  · exact balanced
  · split
    · exact balanced_enclose _ _ balanced
    · split
      · exact balanced_line (balanced_enclose _ _ balanced)
      · exact balanced_line (balanced_enclose _ _ ((Balanced.text "\n").append balanced))

/-- A node closes what it opens around balanced tokens. -/
theorem balanced_tokensAround (node : Node) (balanced : Balanced inner) :
    Balanced (tokensAround settings node inner) := by
  have ownLines : Balanced (lineEnd ++ inner) := (Balanced.text "\n").append balanced
  unfold tokensAround
  cases node.role with
  | root | inline => exact balanced
  | text | htmlBlock | htmlInline => exact .text _
  | softBreak | hardBreak | horizontalRule => exact (Balanced.single _ _).append (.text "\n")
  | heading => exact balanced_headingTokens _ balanced
  | paragraph =>
      simp only
      split
      · exact balanced
      · exact balanced_line (balanced_enclose _ _ balanced)
  | blockquote | listItem => exact balanced_line (balanced_enclose _ _ balanced)
  | fence | codeBlock =>
      exact balanced_line (balanced_enclose _ _ (balanced_enclose _ _ (.text _)))
  | inlineCode => exact balanced_enclose _ _ (.text _)
  | strong | link => exact balanced_enclose _ _ balanced
  | bulletList | orderedList => exact balanced_line (balanced_enclose _ _ ownLines)
  | image => exact .single _ _
  | other name => exact balanced_plainTokens node balanced

/-- The tags in the HTML of a tree are closed in the reverse order of opening. -/
theorem balanced_tokens (tree : Node) : Balanced (tree.tokens settings) := by
  apply tokens_induction .nil
  · intro first second balancedFirst balancedSecond
    exact balancedFirst.append balancedSecond
  · intro node _ inner balanced
    exact balanced_tokensAround node balanced

end Node

end Typeset
