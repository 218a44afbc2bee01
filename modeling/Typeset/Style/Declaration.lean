/-!
# Style declarations

A declaration gives a property a value.  A list of declarations is written on
one line inside a `style` attribute, or on lines of its own in a block of a
style sheet.
-/

namespace Typeset

/-- A property and its value. -/
abbrev Declaration := String × String

/-- Declarations in the order in which they apply. -/
abbrev Declarations := List Declaration

namespace Declarations

/-- The value of a `style` attribute. -/
def inline (declarations : Declarations) : String :=
  " ".intercalate (declarations.map fun (name, value) => name ++ ":" ++ value ++ ";")

/-- One line of a block. -/
def line (declaration : Declaration) : String :=
  "  " ++ declaration.1 ++ ": " ++ declaration.2 ++ " !important;"

/-- The lines between the braces of a block. -/
def body (declarations : Declarations) : String :=
  "\n".intercalate (declarations.map line)

/-- A block for a selector, every declaration of which takes precedence over
the host's own. -/
def block (selector : String) (declarations : Declarations) : String :=
  selector ++ " \x7b\n" ++ declarations.body ++ "\n\x7d"

end Declarations

end Typeset
