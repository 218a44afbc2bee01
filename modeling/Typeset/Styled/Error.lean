import Typeset.Number.Basic
import Typeset.Styled.Kind
import Typeset.Text.Quoted

/-!
# Rendering errors

Rendering fails when a node that needs a rule has none, when a number written
in a tree is not an integer or has too many digits, when a font size has no
double, and when an integer has too many digits to be written.
-/

namespace Typeset

/-- Why a tree could not be rendered. -/
inductive RenderError where
  /-- The table has no rule for the kind of a node. -/
  | noRule (kind : Kind)
  /-- A text that should be an integer is not one. -/
  | notInteger (text : String)
  /-- An integer has more digits than are read. -/
  | tooManyDigits (count : Nat)
  /-- An undefined double stands for an integer. -/
  | undefinedInteger
  /-- An infinite double stands for an integer. -/
  | infiniteInteger
  /-- A font size is an integer beyond the largest double. -/
  | tooLarge
  /-- An integer has more digits than are written. -/
  | unwritable
  deriving DecidableEq

/-- The wording of a rendering error; for a missing rule the name of the kind.  Of
a quoted text the first 200 characters are shown. -/
def RenderError.message : RenderError → String
  | noRule kind => kind.name
  | notInteger text =>
      "invalid literal for int() with base 10: " ++
        String.ofList ((Text.Quoted.quoted text).toList.take 200)
  | tooManyDigits count => Number.digitLimitText count
  | undefinedInteger => "cannot convert float NaN to integer"
  | infiniteInteger => "cannot convert float infinity to integer"
  | tooLarge => "int too large to convert to float"
  | unwritable => Number.unwritableText

end Typeset
