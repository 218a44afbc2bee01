import Typeset.Settings.Basic
import Typeset.Style.Declaration
import Typeset.Styled.Error

/-!
# Declarations shared by both outputs

The HTML rules and the style sheet take sizes, borders and whole declaration
lists from here, so that both show the same.
-/

namespace Typeset.Style

/-- Background of a block quotation. -/
def quoteBackground : String := "#f9f9f9"

/-- Text colour of a block quotation. -/
def quoteColor : String := "#555"

/-- Outer margin of a block quotation. -/
def quoteMargin : String := "20px 0"

/-- Corner radius of a block quotation. -/
def quoteRadius : String := "4px"

/-- Inner margin of the boxes around quotations and code. -/
def boxPadding : String := "15px"

/-- Outer margin of a first-level heading. -/
def headingMargin : String := "20px 0 30px"

/-- Space above a second-level heading. -/
def subheadingMarginTop : String := "40px"

/-- Space below a second-level heading. -/
def subheadingMarginBottom : String := "20px"

/-- Outer margin of the deeper headings. -/
def minorHeadingMargin : String := "25px 0 10px"

/-- The factors between the body's font size and that of headings and
quotations. -/
def headingScale (level : Int) : Binary64 :=
  if level = 1 then Binary64.ofDecimal false 14 (-1)
  else if level = 2 then Binary64.ofDecimal false 1125 (-3)
  else Binary64.ofDecimal false 1 0

/-- The factor between the body's font size and that of a quotation. -/
def quoteScale : Binary64 :=
  Binary64.ofDecimal false 95 (-2)

/-- Numbers that are to be written must not have too many digits. -/
def requireWritable (numbers : List Number) : Except RenderError Unit :=
  if numbers.all Number.isWritable then .ok () else .error .unwritable

/-- The body's font size times a factor, in pixels. -/
def scaledSize (settings : Settings) (scale : Binary64) : Except RenderError String :=
  match settings.fontSize.toBinary64? with
  | some size => .ok (Number.double (size.mul scale)).pixels
  | none => .error .tooLarge

/-- Font size of a heading. -/
def headingSize (level : Int) (settings : Settings) : Except RenderError String :=
  scaledSize settings (headingScale level)

/-- Font size of a block quotation. -/
def quoteSize (settings : Settings) : Except RenderError String :=
  scaledSize settings quoteScale

/-- A border in the heading colour. -/
def accentBorder (width line : String) (settings : Settings) : String :=
  width ++ " " ++ line ++ " " ++ settings.headingColor

/-- The numbers that are written around a code block. -/
def codeBlockNumbers (settings : Settings) : List Number :=
  [settings.codeMarginTop, settings.codeMarginBottom]

/-- Declarations of the box around a code block. -/
def codeBlock (settings : Settings) : Declarations :=
  [("margin-top", settings.codeMarginTop.pixels),
    ("margin-bottom", settings.codeMarginBottom.pixels),
    ("padding", boxPadding),
    ("background", settings.codeBackground),
    ("border-radius", "6px"),
    ("font-size", "14px"),
    ("line-height", "1.5"),
    ("color", "#333"),
    ("overflow-x", "auto"),
    ("font-family", "Consolas, Monaco, 'Andale Mono', monospace"),
    ("border", "1px solid #e1e4e8")]

/-- The numbers that are written for body text. -/
def paragraphNumbers (settings : Settings) : List Number :=
  [settings.fontSize, settings.lineHeight]

/-- Declarations of body text. -/
def paragraph (settings : Settings) : Declarations :=
  [("margin", "0 0 20px"),
    ("font-size", settings.fontSize.pixels),
    ("line-height", settings.lineHeight.cssText),
    ("text-align", "justify"),
    ("color", settings.textColor),
    ("letter-spacing", "0.5px")]

end Typeset.Style
