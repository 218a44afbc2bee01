/-!
# Colour presets

A preset is a named accent colour for headings and bold text.
-/

namespace Typeset

/-- A named accent colour. -/
structure Preset where
  key : String
  name : String
  primary : String
  deriving DecidableEq

namespace Preset

/-- The built-in presets in their listing order. -/
def all : List Preset :=
  [⟨"blue", "Classic Blue", "#1e88e5"⟩,
    ⟨"red", "Vivid Red", "#d32f2f"⟩,
    ⟨"green", "Fresh Green", "#388e3c"⟩,
    ⟨"purple", "Elegant Purple", "#7b1fa2"⟩,
    ⟨"orange", "Lively Orange", "#f57c00"⟩,
    ⟨"black", "Minimal Black", "#333333"⟩]

/-- The preset with a given key. -/
def find? (key : String) : Option Preset :=
  all.find? (·.key == key)

end Preset

end Typeset
