/-!
# Character classes given by ranges

A class of characters is stored as its maximal runs of code points, in
increasing order.  Membership is a search through the runs.
-/

namespace Typeset.Text

/-- Runs of consecutive code points, each given by its first and last one. -/
abbrev Ranges := List (Nat × Nat)

/-- A character belongs to a class when one of the runs contains it. -/
def Ranges.contains (ranges : Ranges) (c : Char) : Bool :=
  ranges.any fun range => range.1 ≤ c.toNat && c.toNat ≤ range.2

end Typeset.Text
