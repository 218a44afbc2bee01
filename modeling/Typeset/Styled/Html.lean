import Typeset.Style.Shared
import Typeset.Styled.Node
import Typeset.Text.Escape

/-!
# The built-in styling rules

Each rule writes one element whose looks are spelled out in its `style`
attribute.  Plain text is escaped here; finished HTML is passed through.
-/

namespace Typeset.Styled

open Typeset.Style

/-- An attribute with its value escaped. -/
def attributeText (name value : String) : String :=
  " " ++ name ++ "=\"" ++ Text.escapeAttribute value ++ "\""

/-- A `style` attribute; its value is written as it is. -/
def styleAttribute (declarations : Declarations) : String :=
  " style=\"" ++ declarations.inline ++ "\""

/-- A `title` attribute, left out when the title is missing or empty. -/
def titleAttribute : Option String → String
  | none => ""
  | some title => if title.isEmpty then "" else attributeText "title" title

/-- An element with finished content. -/
def element (tag attributes content : String) : String :=
  "<" ++ tag ++ attributes ++ ">" ++ content ++ "</" ++ tag ++ ">"

/-! ## Declarations -/

/-- What first-level and deeper headings have in common. -/
def headingCommon (settings : Settings) : Declarations :=
  [("font-weight", "bold"), ("line-height", "1.4"), ("color", settings.headingColor)]

/-- A first-level heading is centred. -/
def headingStyle (size : String) (settings : Settings) : Declarations :=
  headingCommon settings ++
    [("margin", headingMargin), ("font-size", size), ("text-align", "center")]

/-- The section around a second-level heading. -/
def subheadingOuterStyle : Declarations :=
  [("margin-top", subheadingMarginTop), ("margin-bottom", subheadingMarginBottom),
    ("text-align", "center")]

/-- A second-level heading is underlined in the accent colour. -/
def subheadingInnerStyle (size : String) (settings : Settings) : Declarations :=
  [("font-size", size),
    ("font-weight", "bold"),
    ("border-bottom", accentBorder "2px" "solid" settings),
    ("color", settings.headingColor),
    ("padding-bottom", "5px"),
    ("display", "inline-block")]

/-- The deeper headings have a bar in the accent colour on their left. -/
def minorHeadingStyle (size : String) (settings : Settings) : Declarations :=
  headingCommon settings ++
    [("margin", minorHeadingMargin),
      ("font-size", size),
      ("border-left", accentBorder "4px" "solid" settings),
      ("padding-left", "10px")]

/-- A block quotation is a box with a bar in the accent colour. -/
def quoteStyle (size : String) (settings : Settings) : Declarations :=
  [("margin", quoteMargin),
    ("padding", boxPadding),
    ("background", quoteBackground),
    ("border-left", accentBorder "4px" "solid" settings),
    ("border-radius", quoteRadius),
    ("color", quoteColor),
    ("font-size", size),
    ("line-height", "1.6")]

/-- Code inside a line. -/
def inlineCodeStyle : Declarations :=
  [("background", "#fff5f5"),
    ("color", "#ff502c"),
    ("padding", "2px 5px"),
    ("border-radius", "3px"),
    ("font-family", "monospace"),
    ("font-size", "0.9em"),
    ("margin", "0 2px")]

/-- Bold text. -/
def strongStyle (settings : Settings) : Declarations :=
  [("color", settings.boldColor), ("font-weight", "bold")]

/-- Lists of both kinds. -/
def listStyle (settings : Settings) : Declarations :=
  [("margin", "10px 0 20px"),
    ("padding-left", "25px"),
    ("font-size", settings.fontSize.pixels),
    ("color", settings.textColor),
    ("line-height", "1.75")]

/-- The items of a list. -/
def listItemStyle : Declarations :=
  [("margin-bottom", "5px")]

/-- An image is a centred block with a soft shadow. -/
def imageStyle : Declarations :=
  [("display", "block"),
    ("max-width", "100%"),
    ("height", "auto"),
    ("margin", "20px auto"),
    ("border-radius", "6px"),
    ("box-shadow", "0 2px 10px rgba(0,0,0,0.1)")]

/-- A link is underlined in the accent colour. -/
def linkStyle (settings : Settings) : Declarations :=
  [("color", settings.headingColor),
    ("text-decoration", "none"),
    ("border-bottom", accentBorder "1px" "solid" settings),
    ("word-break", "break-all")]

/-- A horizontal rule is a dashed line in the accent colour. -/
def horizontalRuleStyle (settings : Settings) : Declarations :=
  [("border", "0"),
    ("border-top", accentBorder "1px" "dashed" settings),
    ("margin", "30px 0"),
    ("opacity", "0.6")]

/-! ## Rules -/

/-- A heading whose font size is known. -/
def headingHtml (level : Int) (content size : String) (settings : Settings) : String :=
  if level = 1 then
    element "h1" (styleAttribute (headingStyle size settings)) content ++ "\n"
  else if level = 2 then
    element "section" (styleAttribute subheadingOuterStyle)
      (element "span" (styleAttribute (subheadingInnerStyle size settings)) content) ++ "\n"
  else
    element ("h" ++ Number.intText level) (styleAttribute (minorHeadingStyle size settings))
      content ++ "\n"

/-- The built-in rule of every kind. -/
def html (node : Styled) (settings : Settings) : Except RenderError String :=
  match node with
  | heading level content => do
      let size ← headingSize level settings
      requireWritable [.int level]
      return headingHtml level content size settings
  | paragraph content hidden =>
      if hidden then .ok content
      else do
        requireWritable (paragraphNumbers settings)
        return element "p" (styleAttribute (Style.paragraph settings)) content ++ "\n"
  | blockquote content => do
      let size ← quoteSize settings
      return element "blockquote" (styleAttribute (quoteStyle size settings)) content ++ "\n"
  | codeBlock code _ => do
      requireWritable (codeBlockNumbers settings)
      return element "pre" (styleAttribute (Style.codeBlock settings))
        (element "code" "" (Text.escape code)) ++ "\n"
  | inlineCode text => .ok (element "code" (styleAttribute inlineCodeStyle) (Text.escape text))
  | strong content => .ok (element "strong" (styleAttribute (strongStyle settings)) content)
  | list ordered items start => do
      let numbered := ordered && start ≠ 1
      requireWritable (settings.fontSize :: if numbered then [.int start] else [])
      let tag := if ordered then "ol" else "ul"
      let number := if numbered then " start=\"" ++ Number.intText start ++ "\"" else ""
      return element tag (number ++ styleAttribute (listStyle settings)) ("\n" ++ items) ++ "\n"
  | listItem content => .ok (element "li" (styleAttribute listItemStyle) content ++ "\n")
  | image url alt title =>
      .ok ("<img" ++ attributeText "src" url ++ attributeText "alt" alt ++ titleAttribute title ++
        styleAttribute imageStyle ++ " />")
  | link url content title =>
      .ok (element "a"
        (attributeText "href" url ++ titleAttribute title ++ styleAttribute (linkStyle settings))
        content)
  | horizontalRule => .ok ("<hr" ++ styleAttribute (horizontalRuleStyle settings) ++ " />\n")

end Typeset.Styled
