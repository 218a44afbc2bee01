import Typeset.Proofs.Html.Reader
import Typeset.Proofs.Tree.Nodes

/-!
# The tokens of a tree

The tokens of a tree are defined by recursion on it: an element for every node
that has one, with the values of its attributes as they stand in the tree, and
the contents of texts and code as texts.  Nothing is escaped in them.
-/

namespace Typeset.Node

open Typeset.Html

/-- The end of a line. -/
def lineEnd : List Token :=
  [.text "\n"]

/-- An element around tokens. -/
def enclose (name : String) (attributes : List Attribute) (inner : List Token) : List Token :=
  .opening name attributes :: inner ++ [.closing name]

/-- The attribute that holds the looks of an element. -/
def styleOf (declarations : Declarations) : Attribute :=
  ("style", declarations.inline)

/-- The attribute for a title, unless it is missing or empty. -/
def titleOf : Option String → List Attribute
  | none => []
  | some title => if title.isEmpty then [] else [("title", title)]

/-- A size that is known; an unknown one is never written. -/
def sizeText (size : Except RenderError String) : String :=
  size.toOption.getD ""

/-- The tags of headings. -/
def headingTags : List String :=
  ["h1", "h2", "h3", "h4", "h5", "h6"]

/-- The tokens of a heading with a given tag. -/
def headingTokens (tag : String) (settings : Settings) (inner : List Token) : List Token :=
  if tag = "h1" then
    enclose "h1" [styleOf (Styled.headingStyle (sizeText (Style.headingSize 1 settings)) settings)]
      inner ++ lineEnd
  else if tag = "h2" then
    enclose "section" [styleOf Styled.subheadingOuterStyle]
      (enclose "span"
        [styleOf (Styled.subheadingInnerStyle (sizeText (Style.headingSize 2 settings)) settings)]
        inner) ++ lineEnd
  else
    enclose tag
      [styleOf (Styled.minorHeadingStyle (sizeText (Style.headingSize 3 settings)) settings)]
      inner ++ lineEnd

/-- The attribute for the number of a list's first item, unless it is one. -/
def startOf (attributes : List (String × AttributeValue)) : List Attribute :=
  match attributes.lookup "start" with
  | some (.number (.int start) _) => if start = 1 then [] else [("start", Number.intText start)]
  | _ => []

/-- Attributes as they are written. -/
def shownAttributes (attributes : List (String × AttributeValue)) : List Attribute :=
  attributes.map fun (name, value) => (name, value.shown)

/-- The tokens of a node without a styled form: blocks other than cells have
their content on lines of its own. -/
def plainTokens (node : Node) (inner : List Token) : List Token :=
  let attributes := shownAttributes node.attributes
  if node.tag.isEmpty then inner
  else if !node.block then enclose node.tag attributes inner
  else if node.tag = "th" ∨ node.tag = "td" then enclose node.tag attributes inner ++ lineEnd
  else enclose node.tag attributes (lineEnd ++ inner) ++ lineEnd

/-- The tokens of a node, given those of its children. -/
def tokensAround (settings : Settings) (node : Node) (inner : List Token) : List Token :=
  match node.role with
  | .root | .inline => inner
  | .text | .htmlBlock | .htmlInline => [.text node.content]
  | .softBreak | .hardBreak => .single "br" [] :: lineEnd
  | .heading => headingTokens node.tag settings inner
  | .paragraph =>
      if node.hidden then inner
      else enclose "p" [styleOf (Style.paragraph settings)] inner ++ lineEnd
  | .blockquote =>
      enclose "blockquote"
        [styleOf (Styled.quoteStyle (sizeText (Style.quoteSize settings)) settings)] inner ++
        lineEnd
  | .fence | .codeBlock =>
      enclose "pre" [styleOf (Style.codeBlock settings)] (enclose "code" [] [.text node.content]) ++
        lineEnd
  | .inlineCode => enclose "code" [styleOf Styled.inlineCodeStyle] [.text node.content]
  | .strong => enclose "strong" [styleOf (Styled.strongStyle settings)] inner
  | .bulletList =>
      enclose "ul" [styleOf (Styled.listStyle settings)] (lineEnd ++ inner) ++ lineEnd
  | .orderedList =>
      enclose "ol" (startOf node.attributes ++ [styleOf (Styled.listStyle settings)])
        (lineEnd ++ inner) ++ lineEnd
  | .listItem => enclose "li" [styleOf Styled.listItemStyle] inner ++ lineEnd
  | .image =>
      [.single "img"
        ([("src", attributeShown node.attributes "src"), ("alt", plainTexts node.children)] ++
          titleOf (attributeText? node.attributes "title") ++ [styleOf Styled.imageStyle])]
  | .link =>
      enclose "a"
        (("href", attributeShown node.attributes "href") ::
          titleOf (attributeText? node.attributes "title") ++ [styleOf (Styled.linkStyle settings)])
        inner
  | .horizontalRule => .single "hr" [styleOf (Styled.horizontalRuleStyle settings)] :: lineEnd
  | .other _ => plainTokens node inner

mutual

/-- The tokens of a tree. -/
def tokens (settings : Settings) : Node → List Token
  | ⟨role, tag, attributes, content, info, hidden, block, children⟩ =>
      tokensAround settings ⟨role, tag, attributes, content, info, hidden, block, children⟩
        (allTokens settings children)

/-- The tokens of trees from left to right. -/
def allTokens (settings : Settings) : List Node → List Token
  | [] => []
  | node :: nodes => tokens settings node ++ allTokens settings nodes

end

theorem tokens_eq (settings : Settings) (node : Node) :
    node.tokens settings = tokensAround settings node (allTokens settings node.children) := by
  cases node
  rfl

section Induction

variable {settings : Settings} {holds : List Token → Prop} (nil : holds [])
  (append : ∀ first second, holds first → holds second → holds (first ++ second))
include nil append

/-- What holds of no tokens and passes to tokens side by side holds of the tokens
of trees if it does for each tree. -/
theorem allTokens_induction {trees : List Node}
    (each : ∀ tree ∈ trees, holds (tree.tokens settings)) : holds (allTokens settings trees) := by
  induction trees with
  | nil => exact nil
  | cons first others ih =>
      exact append _ _ (each first List.mem_cons_self)
        (ih fun tree member => each tree (List.mem_cons_of_mem _ member))

/-- It holds of the tokens of a tree if every node keeps it. -/
theorem tokens_induction {tree : Node}
    (around : ∀ node ∈ tree.nodes, ∀ inner, holds inner →
      holds (tokensAround settings node inner)) :
    holds (tree.tokens settings) := by
  induction tree using Node.induction with
  | step tree ih =>
      obtain ⟨root, below⟩ := forall_mem_nodes_iff.mp around
      rw [tokens_eq]
      apply root
      apply allTokens_induction nil append
      intro child member
      exact ih child member (below child member)

end Induction

/-- What a node needs to be written as HTML that can be read: names that HTML
allows, the tag of a heading, and a whole number for the first item of a list. -/
structure WellFormed (node : Node) : Prop where
  tag : kindOf? node.role = none → node.tag = "" ∨ isTagName node.tag = true
  attributeNames : ∀ entry ∈ node.attributes, isAttributeName entry.1 = true
  headingTag : node.role = .heading → node.tag ∈ headingTags
  start : ∀ value, ("start", value) ∈ node.attributes →
    ∃ n writable, value = .number (.int n) writable

end Typeset.Node
