import Typeset.Style.Shared

/-!
# The style sheet

The style sheet gives the reading view of a note-taking program the same looks
as the HTML.  It has a comment on its use and eight blocks, one for the view and
one for each of seven elements inside it.
-/

namespace Typeset.Stylesheet

/-- The selector of the reading view. -/
def viewSelector : String := ".markdown-preview-view"

/-- The name under which the style sheet is meant to be saved. -/
def fileName : String := "obsidian-wechat.css"

/-- The fonts of the reading view. -/
def viewFonts : String :=
  "-apple-system, BlinkMacSystemFont, \"Segoe UI\", Roboto, Helvetica, Arial, sans-serif"

/-- The comment at the top. -/
def leadIn : String :=
  "/* Save the following as " ++ fileName ++ " in your vault's .obsidian/snippets " ++
    "folder, then enable it under Settings -> Appearance -> CSS snippets */"

/-- The selector of an element inside the reading view. -/
def inView (element : String) : String :=
  viewSelector ++ " " ++ element

/-- Declarations of bold text. -/
def strong (settings : Settings) : Declarations :=
  [("color", settings.boldColor), ("font-weight", "bold")]

/-- The blocks in their order, when the sizes that depend on the font size are
known. -/
def blocks (settings : Settings) (size1 size2 size3 quoteSize : String) :
    List (String × Declarations) :=
  [(viewSelector,
      [("font-family", viewFonts),
        ("font-size", settings.fontSize.pixels),
        ("line-height", settings.lineHeight.cssText),
        ("color", settings.textColor)]),
    (inView "h1",
      [("text-align", "center"),
        ("font-size", size1),
        ("color", settings.headingColor),
        ("margin", Style.headingMargin)]),
    (inView "h2",
      [("text-align", "center"),
        ("border-bottom", Style.accentBorder "2px" "solid" settings),
        ("color", settings.headingColor),
        ("font-size", size2),
        ("margin-top", Style.subheadingMarginTop),
        ("margin-bottom", Style.subheadingMarginBottom),
        ("padding-bottom", "5px"),
        ("display", "inline-block")]),
    (inView "h3",
      [("border-left", Style.accentBorder "4px" "solid" settings),
        ("padding-left", "10px"),
        ("color", settings.headingColor),
        ("font-size", size3),
        ("margin", Style.minorHeadingMargin)]),
    (inView "p", Style.paragraph settings),
    (inView "strong", strong settings),
    (inView "blockquote",
      [("margin", Style.quoteMargin),
        ("border-left", Style.accentBorder "4px" "solid" settings),
        ("border-radius", Style.quoteRadius),
        ("background-color", Style.quoteBackground),
        ("color", Style.quoteColor),
        ("padding", Style.boxPadding),
        ("font-size", quoteSize),
        ("line-height", "1.6")]),
    (inView "pre", Style.codeBlock settings)]

/-- The text of a list of blocks under the comment. -/
def text (blocks : List (String × Declarations)) : String :=
  leadIn ++ "\n\n" ++
    "\n\n".intercalate
      (blocks.map fun (selector, declarations) => declarations.block selector) ++ "\n"

/-- The blocks of a snapshot's style sheet. -/
def blocksOf (settings : Settings) : Except RenderError (List (String × Declarations)) := do
  Style.requireWritable (Style.paragraphNumbers settings)
  let size1 ← Style.headingSize 1 settings
  let size2 ← Style.headingSize 2 settings
  let size3 ← Style.headingSize 3 settings
  let quoteSize ← Style.quoteSize settings
  Style.requireWritable (Style.codeBlockNumbers settings)
  return blocks settings size1 size2 size3 quoteSize

/-- The style sheet of a snapshot. -/
def ofSettings (settings : Settings) : Except RenderError String :=
  (blocksOf settings).map text

end Typeset.Stylesheet
