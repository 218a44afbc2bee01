import Typeset.Proofs.Number.Numeral

/-!
# Plain texts

A plain text holds no double quote, ampersand or angle bracket.  It may be
written between double quotes as it is.  The text of every number is plain.
-/

namespace Typeset

namespace Text

/-- Whether a character means itself between double quotes. -/
def isPlainChar (c : Char) : Bool :=
  !(c == '\x22' || c == '&' || c == '<' || c == '>')

/-- Whether all characters of a text mean themselves between double quotes. -/
def isPlain (text : String) : Bool :=
  text.toList.all isPlainChar

@[simp]
theorem isPlain_append (first second : String) :
    isPlain (first ++ second) = (isPlain first && isPlain second) := by
  simp [isPlain]

theorem isPlain_intercalate {separator : String} (plain : isPlain separator = true)
    {texts : List String} (allPlain : ∀ text ∈ texts, isPlain text = true) :
    isPlain (separator.intercalate texts) = true := by
  unfold isPlain at plain ⊢
  rw [String.toList_intercalate]
  induction texts with
  | nil => rfl
  | cons text texts ih =>
      have first : text.toList.all isPlainChar = true := allPlain text List.mem_cons_self
      have others := ih fun other member => allPlain other (List.mem_cons_of_mem _ member)
      cases texts with
      | nil => simpa using first
      | cons next texts =>
          rw [List.map_cons, List.map_cons, List.intercalate_cons_cons, List.all_append,
            List.all_append, first, plain, ← List.map_cons, others]
          rfl

/-- A text of characters of numbers is plain. -/
theorem isPlain_of_isNumeral {text : String} (numeral : Number.isNumeral text = true) :
    isPlain text = true := by
  apply List.all_eq_true.mpr
  intro c member
  have notSpecial := Number.beq_eq_false_of_isNumeralChar (List.all_eq_true.mp numeral c member)
  simp [isPlainChar, notSpecial '\x22' (by decide), notSpecial '&' (by decide),
    notSpecial '<' (by decide), notSpecial '>' (by decide)]

end Text

end Typeset
