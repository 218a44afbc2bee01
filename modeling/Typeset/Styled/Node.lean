import Typeset.Number.Basic
import Typeset.Styled.Kind

/-!
# Styled nodes

A styled node is what a styling rule receives.  Fields named `content` and
`items` hold the finished HTML of the node's children; `code`, `text`, `url`,
`alt` and `title` hold plain text that the rule has to escape.
-/

namespace Typeset

/-- A node with a styling rule. -/
inductive Styled where
  | heading (level : Int) (content : String)
  | paragraph (content : String) (hidden : Bool)
  | blockquote (content : String)
  | codeBlock (code : String) (language : Option String)
  | inlineCode (text : String)
  | strong (content : String)
  | list (ordered : Bool) (items : String) (start : Int)
  | listItem (content : String)
  | image (url alt : String) (title : Option String)
  | link (url content : String) (title : Option String)
  | horizontalRule
  deriving DecidableEq

namespace Styled

/-- The kind of a styled node. -/
def kind : Styled → Kind
  | heading .. => .heading
  | paragraph .. => .paragraph
  | blockquote .. => .blockquote
  | codeBlock .. => .codeBlock
  | inlineCode .. => .inlineCode
  | strong .. => .strong
  | list .. => .list
  | listItem .. => .listItem
  | image .. => .image
  | link .. => .link
  | horizontalRule => .horizontalRule

/-! ## Outlines -/

/-- A truth value in an outline. -/
def outlineFlag (flag : Bool) : String :=
  if flag then "true" else "false"

/-- The fields of a node by name, in the order of the constructor's arguments. -/
def fields : Styled → List (String × String)
  | heading level content => [("level", Number.intText level), ("content", content)]
  | paragraph content hidden => [("content", content), ("hidden", outlineFlag hidden)]
  | blockquote content => [("content", content)]
  | codeBlock code language => [("code", code), ("language", language.getD "none")]
  | inlineCode text => [("text", text)]
  | strong content => [("content", content)]
  | list ordered items start =>
      [("ordered", outlineFlag ordered), ("items", items), ("start", Number.intText start)]
  | listItem content => [("content", content)]
  | image url alt title => [("url", url), ("alt", alt), ("title", title.getD "none")]
  | link url content title =>
      [("url", url), ("content", content), ("title", title.getD "none")]
  | horizontalRule => []

/-- A node with its kind and all its fields, unescaped: the plainest rendering,
which shows exactly what a rule receives. -/
def outline (node : Styled) : String :=
  let shown := node.fields.map fun (name, value) => name ++ "=" ++ value
  "⟨" ++ "|".intercalate (node.kind.name :: shown) ++ "⟩"

end Styled

end Typeset
