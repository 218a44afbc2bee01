import Typeset.Number.Reading

/-!
# Syntax trees

A node of a syntax tree has a role, which decides how it is rendered, and the
data that its role may need: a tag, attributes, text and children.  Trees may
come from the Markdown reader or be built by hand, so no field depends on the
role.
-/

namespace Typeset

/-- What a node stands for.  Roles without a rendering of their own are known by
name only. -/
inductive Role where
  | root
  | inline
  | text
  | softBreak
  | hardBreak
  | htmlBlock
  | htmlInline
  | heading
  | paragraph
  | blockquote
  | fence
  | codeBlock
  | inlineCode
  | strong
  | bulletList
  | orderedList
  | listItem
  | image
  | link
  | horizontalRule
  | other (name : String)
  deriving DecidableEq

namespace Role

/-- The roles that have a rendering of their own, with their names. -/
def named : List (String × Role) :=
  [("root", root), ("inline", inline), ("text", text), ("softbreak", softBreak),
    ("hardbreak", hardBreak), ("html_block", htmlBlock), ("html_inline", htmlInline),
    ("heading", heading), ("paragraph", paragraph), ("blockquote", blockquote),
    ("fence", fence), ("code_block", codeBlock), ("code_inline", inlineCode),
    ("strong", strong), ("bullet_list", bulletList), ("ordered_list", orderedList),
    ("list_item", listItem), ("image", image), ("link", link), ("hr", horizontalRule)]

/-- The role with a given name. -/
def ofName (name : String) : Role :=
  (named.lookup name).getD (other name)

/-- The name of a role. -/
def name : Role → String
  | root => "root"
  | inline => "inline"
  | text => "text"
  | softBreak => "softbreak"
  | hardBreak => "hardbreak"
  | htmlBlock => "html_block"
  | htmlInline => "html_inline"
  | heading => "heading"
  | paragraph => "paragraph"
  | blockquote => "blockquote"
  | fence => "fence"
  | codeBlock => "code_block"
  | inlineCode => "code_inline"
  | strong => "strong"
  | bulletList => "bullet_list"
  | orderedList => "ordered_list"
  | listItem => "list_item"
  | image => "image"
  | link => "link"
  | horizontalRule => "hr"
  | other name => name

end Role

/-- The value of an attribute.  An integer has no more digits than can be written. -/
inductive AttributeValue where
  | text (value : String)
  | number (value : Number) (writable : value.isWritable = true)
  deriving DecidableEq

namespace AttributeValue

/-- The value as it is written. -/
def shown : AttributeValue → String
  | text value => value
  | number value _ => value.text

/-- Whether the value counts as missing: the empty text and the zeros do. -/
def isVoid : AttributeValue → Bool
  | text value => value.isEmpty
  | number (.int n) _ => n == 0
  | number (.double (.finite x)) _ => x.isZero
  | number (.double _) _ => false

end AttributeValue

/-- A node of a syntax tree. -/
structure Node where
  role : Role
  tag : String := ""
  attributes : List (String × AttributeValue) := []
  content : String := ""
  info : String := ""
  hidden : Bool := false
  block : Bool := false
  children : List Node := []

namespace Node

/-- An attribute as it is written, or nothing when it counts as missing. -/
def attributeText? (attributes : List (String × AttributeValue)) (name : String) :
    Option String :=
  match attributes.lookup name with
  | some value => if value.isVoid then none else some value.shown
  | none => none

/-- An attribute as it is written, the empty text when there is none. -/
def attributeShown (attributes : List (String × AttributeValue)) (name : String) : String :=
  match attributes.lookup name with
  | some value => value.shown
  | none => ""

mutual

/-- The text of a node without its markup, as it is used for images. -/
def plainText : Node → String
  | ⟨role, _, _, content, _, _, _, children⟩ =>
      match role with
      | .text | .inlineCode => content
      | .softBreak | .hardBreak => "\n"
      | _ => plainTexts children

/-- The texts of nodes, joined. -/
def plainTexts : List Node → String
  | [] => ""
  | node :: nodes => plainText node ++ plainTexts nodes

end

end Node

end Typeset
