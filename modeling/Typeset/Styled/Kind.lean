/-!
# Kinds of styled nodes

Eleven kinds of nodes have a styling rule of their own.
-/

namespace Typeset

/-- A kind of node with a styling rule. -/
inductive Kind where
  | heading
  | paragraph
  | blockquote
  | codeBlock
  | inlineCode
  | strong
  | list
  | listItem
  | image
  | link
  | horizontalRule
  deriving DecidableEq, Repr

namespace Kind

/-- All kinds. -/
def all : List Kind :=
  [heading, paragraph, blockquote, codeBlock, inlineCode, strong, list, listItem, image, link,
    horizontalRule]

/-- The name of a kind. -/
def name : Kind → String
  | heading => "heading"
  | paragraph => "paragraph"
  | blockquote => "blockquote"
  | codeBlock => "code_block"
  | inlineCode => "inline_code"
  | strong => "strong"
  | list => "list"
  | listItem => "list_item"
  | image => "image"
  | link => "link"
  | horizontalRule => "horizontal_rule"

/-- The kind with a given name. -/
def ofName? (name : String) : Option Kind :=
  all.find? (·.name == name)

theorem mem_all (kind : Kind) : kind ∈ all := by
  cases kind <;> simp [all]

end Kind

end Typeset
