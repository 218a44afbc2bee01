import Typeset.Settings.Value

/-!
# Settings

A snapshot of the settings has eight fields, four colours and four lengths.
Every field is known by a name with underscores and by a camel-case name.
-/

namespace Typeset

/-- The fields of a snapshot, in the order in which they are checked. -/
inductive Field where
  | headingColor
  | boldColor
  | textColor
  | codeBackground
  | codeMarginTop
  | codeMarginBottom
  | fontSize
  | lineHeight
  deriving DecidableEq, Repr

/-- The complete visual configuration. -/
structure Settings where
  headingColor : String := "#1e88e5"
  boldColor : String := "#1e88e5"
  textColor : String := "#3f3f3f"
  codeBackground : String := "#f6f8fa"
  codeMarginTop : Number := .int 15
  codeMarginBottom : Number := .int 15
  fontSize : Number := .int 16
  lineHeight : Number := .double (Binary64.ofDecimal false 18 (-1))
  deriving DecidableEq

namespace Field

/-- All fields, in the order in which they are checked. -/
def all : List Field :=
  [headingColor, boldColor, textColor, codeBackground, codeMarginTop, codeMarginBottom,
    fontSize, lineHeight]

/-- The name of a field. -/
def name : Field → String
  | headingColor => "heading_color"
  | boldColor => "bold_color"
  | textColor => "text_color"
  | codeBackground => "code_bg"
  | codeMarginTop => "code_margin_top"
  | codeMarginBottom => "code_margin_bottom"
  | fontSize => "font_size"
  | lineHeight => "line_height"

/-- The camel-case name of a field. -/
def camelName : Field → String
  | headingColor => "headingColor"
  | boldColor => "boldColor"
  | textColor => "textColor"
  | codeBackground => "codeBg"
  | codeMarginTop => "codeMarginTop"
  | codeMarginBottom => "codeMarginBottom"
  | fontSize => "fontSize"
  | lineHeight => "lineHeight"

/-- Whether a field holds a length; the others hold a colour. -/
def isLength : Field → Bool
  | headingColor | boldColor | textColor | codeBackground => false
  | codeMarginTop | codeMarginBottom | fontSize | lineHeight => true

/-- The field with a given name. -/
def ofName? (name : String) : Option Field :=
  all.find? (·.name == name)

theorem mem_all (field : Field) : field ∈ all := by
  cases field <;> simp [all]

@[simp]
theorem ofName?_name (field : Field) : ofName? field.name = some field := by
  cases field <;> decide

/-- The value that a snapshot holds in a field. -/
def get (settings : Settings) : Field → Value
  | headingColor => .text settings.headingColor
  | boldColor => .text settings.boldColor
  | textColor => .text settings.textColor
  | codeBackground => .text settings.codeBackground
  | codeMarginTop => .number settings.codeMarginTop
  | codeMarginBottom => .number settings.codeMarginBottom
  | fontSize => .number settings.fontSize
  | lineHeight => .number settings.lineHeight

/-- Store a value of the kind that the field holds; any other value leaves the
snapshot unchanged. -/
def put (settings : Settings) : Field → Value → Settings
  | headingColor, .text value => { settings with headingColor := value }
  | boldColor, .text value => { settings with boldColor := value }
  | textColor, .text value => { settings with textColor := value }
  | codeBackground, .text value => { settings with codeBackground := value }
  | codeMarginTop, .number value => { settings with codeMarginTop := value }
  | codeMarginBottom, .number value => { settings with codeMarginBottom := value }
  | fontSize, .number value => { settings with fontSize := value }
  | lineHeight, .number value => { settings with lineHeight := value }
  | _, _ => settings

end Field

end Typeset
