import Typeset.Styled.RuleTable
import Typeset.Tree.Node

/-!
# Rendering a syntax tree

A tree is rendered bottom up.  A node whose role has a styled form is turned
into that form, with the HTML of its children, and given to the rule of its
kind; every other node is written as plain HTML.  The children of an image are
not rendered: only their text is used.
-/

namespace Typeset

/-! ## From nodes to styled nodes -/

/-- The integer that an attribute value stands for. -/
def AttributeValue.integer : AttributeValue → Except RenderError Int
  | .text value =>
      match Number.readInt value.toList with
      | .ok n => .ok n
      | .error .malformed => .error (.notInteger value)
      | .error (.tooManyDigits count) => .error (.tooManyDigits count)
  | .number (.int n) _ => .ok n
  | .number (.double (.finite x)) _ => .ok x.truncate
  | .number (.double (.infinite _)) _ => .error .infiniteInteger
  | .number (.double .nan) _ => .error .undefinedInteger

/-- The first word of an info text names the language of a code block. -/
def language? (info : String) : Option String :=
  (Text.firstWord? info.toList).map String.ofList

namespace Node

/-- The level of a heading is written after the first letter of its tag. -/
def headingLevel (tag : String) : Except RenderError Int :=
  (AttributeValue.text (String.ofList (tag.toList.drop 1))).integer

/-- The number of the first item of an ordered list. -/
def listStart (attributes : List (String × AttributeValue)) : Except RenderError Int :=
  match attributes.lookup "start" with
  | some value => value.integer
  | none => .ok 1

/-- The kind of rule that the nodes of a role need. -/
def kindOf? : Role → Option Kind
  | .heading => some .heading
  | .paragraph => some .paragraph
  | .blockquote => some .blockquote
  | .fence | .codeBlock => some .codeBlock
  | .inlineCode => some .inlineCode
  | .strong => some .strong
  | .bulletList | .orderedList => some .list
  | .listItem => some .listItem
  | .image => some .image
  | .link => some .link
  | .horizontalRule => some .horizontalRule
  | _ => none

/-- The styled form of a node with rendered children, when its role has one. -/
def styled? (node : Node) (inner : String) : Option (Except RenderError Styled) :=
  match node.role with
  | .heading =>
      some ((headingLevel node.tag).map fun level => .heading level inner)
  | .paragraph => some (.ok (.paragraph inner node.hidden))
  | .blockquote => some (.ok (.blockquote inner))
  | .fence => some (.ok (.codeBlock node.content (language? node.info)))
  | .codeBlock => some (.ok (.codeBlock node.content none))
  | .inlineCode => some (.ok (.inlineCode node.content))
  | .strong => some (.ok (.strong inner))
  | .bulletList => some (.ok (.list false inner 1))
  | .orderedList =>
      some ((listStart node.attributes).map fun start => .list true inner start)
  | .listItem => some (.ok (.listItem inner))
  | .image =>
      some (.ok (.image (attributeShown node.attributes "src") (plainTexts node.children)
        (attributeText? node.attributes "title")))
  | .link =>
      some (.ok (.link (attributeShown node.attributes "href") inner
        (attributeText? node.attributes "title")))
  | .horizontalRule => some (.ok .horizontalRule)
  | _ => none

/-! ## Plain HTML -/

/-- The attributes of a plain element. -/
def plainAttributes (attributes : List (String × AttributeValue)) : String :=
  String.join (attributes.map fun (name, value) => Styled.attributeText name value.shown)

/-- A plain element.  Blocks other than table cells have their content on lines
of its own. -/
def plainElement (node : Node) (inner : String) : String :=
  let attributes := plainAttributes node.attributes
  if !node.block then
    Styled.element node.tag attributes inner
  else if node.tag = "th" ∨ node.tag = "td" then
    Styled.element node.tag attributes inner ++ "\n"
  else
    Styled.element node.tag attributes ("\n" ++ inner) ++ "\n"

/-- A node without a styled form, as plain HTML. -/
def plain (node : Node) (inner : String) : String :=
  match node.role with
  | .root | .inline => inner
  | .text | .htmlBlock | .htmlInline => Text.escape node.content
  | .softBreak | .hardBreak => "<br />\n"
  | _ => if node.tag.isEmpty then inner else plainElement node inner

/-! ## Trees -/

/-- A node whose children are rendered. -/
def finish (table : RuleTable) (settings : Settings) (node : Node) (inner : String) :
    Except RenderError String :=
  match node.styled? inner with
  | none => .ok (node.plain inner)
  | some (.error error) => .error error
  | some (.ok styled) => table.render styled settings

mutual

/-- Render a tree with the rules of a table. -/
def render (table : RuleTable) (settings : Settings) : Node → Except RenderError String
  | ⟨role, tag, attributes, content, info, hidden, block, children⟩ => do
      let node : Node := ⟨role, tag, attributes, content, info, hidden, block, children⟩
      let inner ← if role = .image then .ok "" else renderAll table settings children
      finish table settings node inner

/-- Render trees from left to right and join the results. -/
def renderAll (table : RuleTable) (settings : Settings) :
    List Node → Except RenderError String
  | [] => .ok ""
  | node :: nodes => do
      let first ← render table settings node
      let others ← renderAll table settings nodes
      return first ++ others

end

end Node

end Typeset
