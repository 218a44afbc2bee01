import Typeset.Styled.Html
import Typeset.Proofs.Text.Plain

/-!
# Plain styles

The values of `style` attributes are written without escaping.  They are plain
as long as the colours of the settings are: names, fixed values and sizes never
hold a character that would need it.
-/

namespace Typeset

open Typeset.Text

/-- All four colours are plain. -/
structure Settings.PlainColors (settings : Settings) : Prop where
  heading : isPlain settings.headingColor = true
  bold : isPlain settings.boldColor = true
  text : isPlain settings.textColor = true
  code : isPlain settings.codeBackground = true

namespace Declarations

/-- Whether all names and values of declarations are plain. -/
def isPlain (declarations : Declarations) : Bool :=
  declarations.all fun declaration =>
    Text.isPlain declaration.1 && Text.isPlain declaration.2

theorem isPlain_inline {declarations : Declarations} (plain : declarations.isPlain = true) :
    Text.isPlain declarations.inline = true := by
  apply Text.isPlain_intercalate (by decide)
  intro text member
  obtain ⟨⟨name, value⟩, declared, rfl⟩ := List.mem_map.mp member
  have parts := List.all_eq_true.mp plain _ declared
  rw [Bool.and_eq_true] at parts
  have colon : Text.isPlain ":" = true := by decide
  have semicolon : Text.isPlain ";" = true := by decide
  simp [parts.1, parts.2, colon, semicolon]

end Declarations

theorem Number.isPlain_cssText (number : Number) : isPlain number.cssText = true :=
  isPlain_of_isNumeral number.isNumeral_cssText

theorem Number.isPlain_pixels (number : Number) : isPlain number.pixels = true :=
  isPlain_of_isNumeral number.isNumeral_pixels

namespace Style

theorem isPlain_scaledSize {settings : Settings} {scale : Binary64} {size : String}
    (scaled : scaledSize settings scale = .ok size) : isPlain size = true := by
  unfold scaledSize at scaled
  split at scaled
  · cases scaled
    exact Number.isPlain_pixels _
  · contradiction

variable {settings : Settings} (plain : settings.PlainColors)
include plain

theorem isPlain_accentBorder {width line : String} (widthPlain : isPlain width = true)
    (linePlain : isPlain line = true) : isPlain (accentBorder width line settings) = true := by
  have space : isPlain " " = true := by decide
  simp [accentBorder, widthPlain, linePlain, space, plain.heading]

theorem isPlain_paragraph : (paragraph settings).isPlain = true := by
  simp only [paragraph, Declarations.isPlain, List.all_cons, List.all_nil,
    Number.isPlain_pixels, Number.isPlain_cssText, plain.text]
  decide

theorem isPlain_codeBlock : (codeBlock settings).isPlain = true := by
  simp only [codeBlock, Declarations.isPlain, List.all_cons, List.all_nil,
    Number.isPlain_pixels, plain.code]
  decide

end Style

namespace Styled

open Typeset.Style

variable {settings : Settings} (plain : settings.PlainColors)
include plain

theorem isPlain_headingStyle {size : String} (sizePlain : isPlain size = true) :
    (headingStyle size settings).isPlain = true := by
  simp only [headingStyle, headingCommon, Declarations.isPlain, List.cons_append,
    List.nil_append, List.all_cons, List.all_nil, sizePlain, plain.heading]
  decide

theorem isPlain_subheadingInnerStyle {size : String} (sizePlain : isPlain size = true) :
    (subheadingInnerStyle size settings).isPlain = true := by
  have border : isPlain (accentBorder "2px" "solid" settings) = true :=
    isPlain_accentBorder plain rfl rfl
  simp only [subheadingInnerStyle, Declarations.isPlain, List.all_cons, List.all_nil,
    sizePlain, border, plain.heading]
  decide

theorem isPlain_minorHeadingStyle {size : String} (sizePlain : isPlain size = true) :
    (minorHeadingStyle size settings).isPlain = true := by
  have border : isPlain (accentBorder "4px" "solid" settings) = true :=
    isPlain_accentBorder plain rfl rfl
  simp only [minorHeadingStyle, headingCommon, Declarations.isPlain, List.cons_append,
    List.nil_append, List.all_cons, List.all_nil, sizePlain, border, plain.heading]
  decide

theorem isPlain_quoteStyle {size : String} (sizePlain : isPlain size = true) :
    (quoteStyle size settings).isPlain = true := by
  have border : isPlain (accentBorder "4px" "solid" settings) = true :=
    isPlain_accentBorder plain rfl rfl
  simp only [quoteStyle, Declarations.isPlain, List.all_cons, List.all_nil, sizePlain, border]
  decide

theorem isPlain_strongStyle : (strongStyle settings).isPlain = true := by
  simp only [strongStyle, Declarations.isPlain, List.all_cons, List.all_nil, plain.bold]
  decide

theorem isPlain_listStyle : (listStyle settings).isPlain = true := by
  simp only [listStyle, Declarations.isPlain, List.all_cons, List.all_nil,
    Number.isPlain_pixels, plain.text]
  decide

theorem isPlain_linkStyle : (linkStyle settings).isPlain = true := by
  have border : isPlain (accentBorder "1px" "solid" settings) = true :=
    isPlain_accentBorder plain rfl rfl
  simp only [linkStyle, Declarations.isPlain, List.all_cons, List.all_nil, border, plain.heading]
  decide

theorem isPlain_horizontalRuleStyle : (horizontalRuleStyle settings).isPlain = true := by
  have border : isPlain (accentBorder "1px" "dashed" settings) = true :=
    isPlain_accentBorder plain rfl rfl
  simp only [horizontalRuleStyle, Declarations.isPlain, List.all_cons, List.all_nil, border]
  decide

end Styled

end Typeset
