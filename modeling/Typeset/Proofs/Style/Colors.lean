import Typeset.Styled.Html
import Typeset.Proofs.Basic
import Typeset.Proofs.Text.Joins

/-!
# Colours in styles

A style says the colours of the settings a fixed number of times, and no size
depends on them.  So a style is a text around each of the four colours.
-/

namespace Typeset

open Typeset.Text

/-! ## Settings with another colour -/

/-- The settings with a colour put into a field. -/
def Settings.withColor (settings : Settings) (field : Field) (colour : String) : Settings :=
  field.put settings (.text colour)

/-- One joint where a field meets itself, none where it meets another one. -/
def Field.joint (field other : Field) : Nat :=
  if field = other then 1 else 0

section WithColor

variable (settings : Settings) (field : Field) (colour : String)

@[simp]
theorem Settings.fontSize_withColor :
    (settings.withColor field colour).fontSize = settings.fontSize := by
  cases field <;> rfl

@[simp]
theorem Settings.lineHeight_withColor :
    (settings.withColor field colour).lineHeight = settings.lineHeight := by
  cases field <;> rfl

@[simp]
theorem Settings.codeMarginTop_withColor :
    (settings.withColor field colour).codeMarginTop = settings.codeMarginTop := by
  cases field <;> rfl

@[simp]
theorem Settings.codeMarginBottom_withColor :
    (settings.withColor field colour).codeMarginBottom = settings.codeMarginBottom := by
  cases field <;> rfl

@[simp]
theorem Style.paragraphNumbers_withColor :
    paragraphNumbers (settings.withColor field colour) = paragraphNumbers settings := by
  simp [paragraphNumbers]

@[simp]
theorem Style.codeBlockNumbers_withColor :
    codeBlockNumbers (settings.withColor field colour) = codeBlockNumbers settings := by
  simp [codeBlockNumbers]

@[simp]
theorem Style.headingSize_withColor (level : Int) :
    headingSize level (settings.withColor field colour) = headingSize level settings := by
  simp [headingSize, scaledSize]

@[simp]
theorem Style.quoteSize_withColor :
    quoteSize (settings.withColor field colour) = quoteSize settings := by
  simp [quoteSize, scaledSize]

end WithColor

/-! ## Declarations around a word -/

namespace Declarations

/-- Declarations whose values say a word at a number of joints. -/
inductive Joins : Nat → (String → Declarations) → Prop where
  | nil : Joins 0 fun _ => []
  | cons {m n : Nat} {value : String → String} {others : String → Declarations} (name : String)
      (joinsValue : Text.Joins m value) (joinsOthers : Joins n others) :
      Joins (m + n) fun word => (name, value word) :: others word

namespace Joins

variable {n : Nat} {declarations : String → Declarations}

/-- A declaration with a fixed value before others. -/
theorem fixed (name value : String) (joins : Joins n declarations) :
    Joins n fun word => (name, value) :: declarations word := by
  simpa using cons name (.fixed value) joins

/-- Writing declarations adds no joints. -/
theorem inline (joins : Joins n declarations) :
    Text.Joins n fun word => (declarations word).inline := by
  induction joins with
  | nil => exact .fixed _
  | @cons m n value others name joinsValue joinsOthers ih =>
      have written : Text.Joins m fun word => name ++ ":" ++ value word ++ ";" :=
        (joinsValue.after (name ++ ":")).before ";"
      cases joinsOthers with
      | nil => simpa [Declarations.inline] using written
      | cons next joinsNext joinsOthers =>
          have joined := (written.before " ").append ih
          simpa [Declarations.inline] using joined

end Joins

end Declarations

/-! ## Styles -/

section Styles

variable (settings : Settings) (field : Field)

/-- A colour of the settings is the colour of its own field and of no other. -/
theorem Settings.joins_headingColor :
    Joins (field.joint .headingColor) fun colour =>
      (settings.withColor field colour).headingColor := by
  cases field with
  | headingColor => exact .word
  | _ => exact .fixed settings.headingColor

theorem Settings.joins_boldColor :
    Joins (field.joint .boldColor) fun colour => (settings.withColor field colour).boldColor := by
  cases field with
  | boldColor => exact .word
  | _ => exact .fixed settings.boldColor

theorem Settings.joins_textColor :
    Joins (field.joint .textColor) fun colour => (settings.withColor field colour).textColor := by
  cases field with
  | textColor => exact .word
  | _ => exact .fixed settings.textColor

theorem Settings.joins_codeBackground :
    Joins (field.joint .codeBackground) fun colour =>
      (settings.withColor field colour).codeBackground := by
  cases field with
  | codeBackground => exact .word
  | _ => exact .fixed settings.codeBackground

namespace Style

open Declarations.Joins

theorem joins_accentBorder (width line : String) :
    Joins (field.joint .headingColor) fun colour =>
      accentBorder width line (settings.withColor field colour) :=
  (settings.joins_headingColor field).after _

theorem joins_paragraph :
    Declarations.Joins (field.joint .textColor) fun colour =>
      paragraph (settings.withColor field colour) := by
  have color := settings.joins_textColor field
  simp only [paragraph, Settings.fontSize_withColor, Settings.lineHeight_withColor]
  exact fixed _ _ (fixed _ _ (fixed _ _ (fixed _ _ (cons _ color (fixed _ _ nil)))))

theorem joins_codeBlock :
    Declarations.Joins (field.joint .codeBackground) fun colour =>
      codeBlock (settings.withColor field colour) := by
  have background := settings.joins_codeBackground field
  simp only [codeBlock, Settings.codeMarginTop_withColor, Settings.codeMarginBottom_withColor]
  exact fixed _ _ (fixed _ _ (fixed _ _ (cons _ background (fixed _ _ (fixed _ _ (fixed _ _
    (fixed _ _ (fixed _ _ (fixed _ _ (fixed _ _ nil))))))))))

end Style

namespace Styled

open Style Declarations.Joins

theorem joins_headingStyle (size : String) :
    Declarations.Joins (field.joint .headingColor) fun colour =>
      headingStyle size (settings.withColor field colour) :=
  fixed _ _ (fixed _ _ (cons _ (settings.joins_headingColor field)
    (fixed _ _ (fixed _ _ (fixed _ _ nil)))))

theorem joins_subheadingInnerStyle (size : String) :
    Declarations.Joins (2 * field.joint .headingColor) fun colour =>
      subheadingInnerStyle size (settings.withColor field colour) := by
  rw [Nat.two_mul]
  exact fixed _ _ (fixed _ _ (cons _ (joins_accentBorder settings field "2px" "solid")
    (cons _ (settings.joins_headingColor field) (fixed _ _ (fixed _ _ nil)))))

theorem joins_minorHeadingStyle (size : String) :
    Declarations.Joins (2 * field.joint .headingColor) fun colour =>
      minorHeadingStyle size (settings.withColor field colour) := by
  rw [Nat.two_mul]
  exact fixed _ _ (fixed _ _ (cons _ (settings.joins_headingColor field) (fixed _ _ (fixed _ _
    (cons _ (joins_accentBorder settings field "4px" "solid") (fixed _ _ nil))))))

theorem joins_quoteStyle (size : String) :
    Declarations.Joins (field.joint .headingColor) fun colour =>
      quoteStyle size (settings.withColor field colour) :=
  fixed _ _ (fixed _ _ (fixed _ _ (cons _ (joins_accentBorder settings field "4px" "solid")
    (fixed _ _ (fixed _ _ (fixed _ _ (fixed _ _ nil)))))))

theorem joins_strongStyle :
    Declarations.Joins (field.joint .boldColor) fun colour =>
      strongStyle (settings.withColor field colour) :=
  cons _ (settings.joins_boldColor field) (fixed _ _ nil)

theorem joins_listStyle :
    Declarations.Joins (field.joint .textColor) fun colour =>
      listStyle (settings.withColor field colour) := by
  have color := settings.joins_textColor field
  simp only [listStyle, Settings.fontSize_withColor]
  exact fixed _ _ (fixed _ _ (fixed _ _ (cons _ color (fixed _ _ nil))))

theorem joins_linkStyle :
    Declarations.Joins (2 * field.joint .headingColor) fun colour =>
      linkStyle (settings.withColor field colour) := by
  rw [Nat.two_mul]
  exact cons _ (settings.joins_headingColor field) (fixed _ _
    (cons _ (joins_accentBorder settings field "1px" "solid") (fixed _ _ nil)))

theorem joins_horizontalRuleStyle :
    Declarations.Joins (field.joint .headingColor) fun colour =>
      horizontalRuleStyle (settings.withColor field colour) :=
  fixed _ _ (cons _ (joins_accentBorder settings field "1px" "dashed")
    (fixed _ _ (fixed _ _ nil)))

end Styled

end Styles

/-! ## Elements -/

namespace Styled

variable {m n : Nat} {attributes content : String → String}

theorem joins_styleAttribute {declarations : String → Declarations}
    (joins : Declarations.Joins n declarations) :
    Joins n fun word => styleAttribute (declarations word) :=
  (joins.inline.after _).before _

theorem joins_element (tag : String) (joinsAttributes : Joins m attributes)
    (joinsContent : Joins n content) :
    Joins (m + n) fun word => element tag (attributes word) (content word) :=
  ((((joinsAttributes.after ("<" ++ tag)).before ">").append joinsContent).before "</").before tag
    |>.before ">"

/-- A first-level heading says the heading colour once, every other one twice. -/
theorem joins_headingHtml (settings : Settings) (field : Field) (level : Int) (size : String)
    (joinsContent : Joins n content) :
    Joins ((if level = 1 then 1 else 2) * field.joint .headingColor + n) fun colour =>
      headingHtml level (content colour) size (settings.withColor field colour) := by
  unfold headingHtml
  by_cases first : level = 1
  · simp only [first, if_true, Nat.one_mul]
    have style := joins_styleAttribute (joins_headingStyle settings field size)
    exact (joins_element "h1" style joinsContent).before "\n"
  · simp only [first, if_false]
    by_cases second : level = 2
    · simp only [second, if_true]
      have style := joins_styleAttribute (joins_subheadingInnerStyle settings field size)
      have inner := joins_element "span" style joinsContent
      have outer := joins_element "section" (.fixed (styleAttribute subheadingOuterStyle)) inner
      simpa using outer.before "\n"
    · simp only [second, if_false]
      have style := joins_styleAttribute (joins_minorHeadingStyle settings field size)
      exact (joins_element ("h" ++ Number.intText level) style joinsContent).before "\n"

/-- A list says the text colour once. -/
theorem exists_html_list_withColor {settings : Settings} {field : Field} {ordered : Bool}
    {items html : String} {start : Int}
    (rendered : Styled.html (.list ordered items start) settings = .ok html)
    (joinsContent : Joins n content) :
    ∃ written, Joins (field.joint .textColor + n) written ∧
      ∀ colour, Styled.html (.list ordered (content colour) start)
        (settings.withColor field colour) = .ok (written colour) := by
  obtain ⟨_, writable, -⟩ := bind_eq_ok_iff.mp rendered
  have style := joins_styleAttribute (joins_listStyle settings field)
  have numbered := style.after
    (if (ordered && start ≠ 1) = true then " start=\"" ++ Number.intText start ++ "\"" else "")
  refine ⟨_, (joins_element (if ordered then "ol" else "ul") numbered
    (joinsContent.after "\n")).before "\n", ?_⟩
  intro colour
  rw [← settings.fontSize_withColor field colour] at writable
  exact bind_eq_ok_iff.mpr ⟨_, writable, rfl⟩

end Styled

end Typeset
