import Typeset.Proofs.Basic
import Typeset.Proofs.Json.Grammar

/-!
# Scanning what is written

The scanners of strings and numbers read what the grammar writes, whatever comes after a string
and before whatever may follow a number.  An escape of the first half of a surrogate pair is read
with the next one exactly when that is a second half, and an integer is refused for its length
alone.
-/

namespace Typeset.Json

variable {cursor : Cursor} {text rest : List Char} {fuel : Nat}

namespace Cursor

theorem rest_skip (follows : cursor.rest = text ++ rest) :
    (cursor.skip text.length).rest = rest := by
  rw [skip, follows, List.drop_left]

theorem skip_skip (cursor : Cursor) (first second : Nat) :
    (cursor.skip first).skip second = cursor.skip (first + second) := by
  rw [skip, skip, skip, List.drop_drop, Nat.add_assoc]

theorem skipSpace_eq {blank : List Char} (isBlank : IsBlank blank)
    (follows : cursor.rest = blank ++ rest) (solid : ∀ c ∈ rest.head?, isSpace c = false) :
    cursor.skipSpace = cursor.skip blank.length := by
  rw [skipSpace, follows, takeWhile_append_eq isBlank solid]

end Cursor

/-! ## Strings -/

section Strings

variable {opening : Nat}

/-- A string goes on after a piece of it that stands for one character. -/
def Steps (opening : Nat) (cursor : Cursor) (size : Nat) (c : Char) : Prop :=
  ∀ fuel, scanText opening (fuel + 1) cursor = do
    let (chars, final) ← scanText opening fuel (cursor.skip size)
    return (c :: chars, final)

theorem steps_plain {c : Char} (follows : cursor.rest = c :: rest) (visible : 0x20 ≤ c.toNat)
    (notQuote : c ≠ '\x22') (notEscape : c ≠ '\\') : Steps opening cursor 1 c := by
  have shown : ¬c.toNat < 0x20 := Nat.not_lt.mpr visible
  intro fuel
  simp [scanText, follows, shown]

theorem ne_code_of_simple {letter c : Char} (simple : simpleEscape? letter = some c) :
    letter ≠ 'u' := by
  rintro rfl
  cases simple

theorem steps_escape {letter c : Char} (follows : cursor.rest = '\\' :: letter :: rest)
    (simple : simpleEscape? letter = some c) : Steps opening cursor 2 c := by
  intro fuel
  simp [scanText, follows, ne_code_of_simple simple, simple]

/-- A second half is found when it is written and a character comes after it. -/
theorem lowHalf_eq_found {a b c d after : Char} {others : List Char} {low : Nat}
    (digits : hexCode? a b c d = some low) (isLow : IsLow low) :
    lowHalf ('\\' :: 'u' :: a :: b :: c :: d :: after :: others) = .found low := by
  simp [lowHalf, digits, isLow.1, isLow.2]

/-- A string that goes on with something else has no second half next. -/
theorem lowHalf_of_not_startsLow {text chars : List Char} (spells : StringText text chars)
    (single : ¬StartsLow text) :
    lowHalf (text ++ '\x22' :: rest) = .absent ∨
      lowHalf (text ++ '\x22' :: rest) = .unrelated := by
  have unrelated : ∀ {a b c d : Char} {others : List Char} {code : Nat},
      text = '\\' :: 'u' :: a :: b :: c :: d :: others → hexCode? a b c d = some code →
        lowHalf (text ++ '\x22' :: rest) = .unrelated := by
    rintro a b c d others code rfl digits
    have notLow : ¬(0xDC00 ≤ code ∧ code ≤ 0xDFFF) :=
      fun isLow => single ⟨a, b, c, d, others, code, rfl, digits, isLow⟩
    cases others <;> simp [lowHalf, digits, notLow]
  cases spells with
  | nil => exact .inl rfl
  | plain visible notQuote notEscape spells =>
      left
      simp [lowHalf, notEscape]
  | @escape letter c _ _ simple spells =>
      left
      simp [lowHalf, ne_code_of_simple simple]
  | code digits unpaired spells => exact .inr (unrelated rfl digits)
  | pair digits isHigh lowDigits isLow spells => exact .inr (unrelated rfl digits)

theorem steps_code {a b c d after : Char} {others : List Char} {code : Nat}
    (follows : cursor.rest = '\\' :: 'u' :: a :: b :: c :: d :: after :: others)
    (digits : hexCode? a b c d = some code)
    (unpaired : IsHigh code →
      lowHalf (after :: others) = .absent ∨ lowHalf (after :: others) = .unrelated) :
    Steps opening cursor 6 (codeChar code) := by
  intro fuel
  by_cases isHigh : IsHigh code
  · rcases unpaired isHigh with next | next
    · simp [scanText, follows, digits, isHigh.1, isHigh.2, next]
    · simp [scanText, follows, digits, isHigh.1, isHigh.2, next]
  · have single : ¬(0xD800 ≤ code ∧ code ≤ 0xDBFF) := isHigh
    simp [scanText, follows, digits, single]

theorem steps_pair {a b c d after : Char} {others : List Char} {high low : Nat}
    (follows : cursor.rest = '\\' :: 'u' :: a :: b :: c :: d :: after :: others)
    (digits : hexCode? a b c d = some high) (isHigh : IsHigh high)
    (next : lowHalf (after :: others) = .found low) :
    Steps opening cursor 12 (joined high low) := by
  intro fuel
  simp [scanText, follows, digits, isHigh.1, isHigh.2, next, joined]

/-- After a piece that stands for one character the rest of the string is read. -/
theorem Steps.scanText_eq {size : Nat} {c : Char} {text chars : List Char}
    (steps : Steps opening cursor size c) (moves : 0 < size) (enough : text.length + size < fuel)
    (follows : (cursor.skip size).rest = text ++ '\x22' :: rest)
    (reads : ∀ {fuel : Nat} {cursor : Cursor}, text.length < fuel →
      cursor.rest = text ++ '\x22' :: rest →
        scanText opening fuel cursor = .ok (chars, cursor.skip (text.length + 1))) :
    scanText opening fuel cursor = .ok (c :: chars, cursor.skip (text.length + size + 1)) := by
  obtain ⟨fuel, rfl⟩ := Nat.exists_eq_add_of_lt enough
  have total : size + (text.length + 1) = text.length + size + 1 := by omega
  rw [steps, reads (by omega) follows, Cursor.skip_skip, total]
  rfl

/-- A string is read up to its closing quote. -/
theorem scanText_eq {text chars : List Char} (spells : StringText text chars) {fuel : Nat}
    {cursor : Cursor} (enough : text.length < fuel)
    (follows : cursor.rest = text ++ '\x22' :: rest) :
    scanText opening fuel cursor = .ok (chars, cursor.skip (text.length + 1)) := by
  induction spells generalizing fuel cursor with
  | nil =>
      obtain ⟨fuel, rfl⟩ := Nat.exists_eq_add_of_lt enough
      simp [scanText, follows]
  | plain visible notQuote notEscape spells ih =>
      exact (steps_plain follows visible notQuote notEscape).scanText_eq (by decide) enough
        (by rw [Cursor.skip, follows]; rfl) ih
  | escape simple spells ih =>
      exact (steps_escape follows simple).scanText_eq (by decide) enough
        (by rw [Cursor.skip, follows]; rfl) ih
  | @code a b c d code text chars digits unpaired spells ih =>
      obtain ⟨after, others, next⟩ : ∃ after others, text ++ '\x22' :: rest = after :: others :=
        List.exists_cons_of_ne_nil (by simp)
      have start : cursor.rest = '\\' :: 'u' :: a :: b :: c :: d :: after :: others := by
        rw [follows, ← next]
        rfl
      refine (steps_code start digits fun isHigh => ?_).scanText_eq (by decide) enough
        (by rw [Cursor.skip, follows]; rfl) ih
      rw [← next]
      exact lowHalf_of_not_startsLow spells (unpaired isHigh)
  | @pair a b c d e f g h high low text chars digits isHigh lowDigits isLow spells ih =>
      obtain ⟨after, others, next⟩ : ∃ after others, text ++ '\x22' :: rest = after :: others :=
        List.exists_cons_of_ne_nil (by simp)
      have found : lowHalf ('\\' :: 'u' :: e :: f :: g :: h :: (text ++ '\x22' :: rest)) =
          .found low := by
        rw [next]
        exact lowHalf_eq_found lowDigits isLow
      exact (steps_pair follows digits isHigh found).scanText_eq (by decide) enough
        (by rw [Cursor.skip, follows]; rfl) ih

end Strings

/-! ## Numbers -/

/-- A character that may come after a value. -/
def closes (c : Char) : Bool :=
  Cursor.isSpace c || c == ',' || c == ']' || c == '\x7d'

/-- The end of the text, or a character that may come after a value. -/
def IsEnd (text : List Char) : Prop :=
  ∀ c ∈ text.head?, closes c = true

/-- No digit comes first. -/
def NoDigit (text : List Char) : Prop :=
  ∀ c ∈ text.head?, c.isDigit = false

theorem ne_of_isDigit {c other : Char} (digit : c.isDigit = true)
    (noDigit : other.isDigit = false) : c ≠ other := by
  rintro rfl
  cases digit.symm.trans noDigit

theorem IsEnd.head?_ne {c : Char} (isEnd : IsEnd rest) (other : closes c = false) :
    rest.head? ≠ some c := by
  intro first
  cases (isEnd c first).symm.trans other

theorem IsEnd.noDigit (isEnd : IsEnd rest) : NoDigit rest := by
  intro c first
  have closes := isEnd c first
  simp only [Json.closes, Cursor.isSpace, Bool.or_eq_true, beq_iff_eq] at closes
  rcases closes with ((((((rfl | rfl) | rfl) | rfl) | rfl) | rfl) | rfl) <;> rfl

theorem wholePart?_append {whole : List Char} (isDigits : IsDigits whole)
    (isShort : whole.head? = some '0' → whole = ['0']) (stops : NoDigit rest) :
    wholePart? (whole ++ rest) = some whole := by
  obtain ⟨first, others, rfl⟩ := List.exists_cons_of_ne_nil isDigits.1
  obtain ⟨firstDigit, otherDigits⟩ := List.forall_mem_cons.mp isDigits.2
  by_cases zero : first = '0'
  · subst zero
    cases isShort rfl
    rfl
  · simp [wholePart?, zero, firstDigit, takeWhile_append_eq otherDigits stops]

theorem exponentPart_text (exponent : Exponent) (stops : NoDigit rest) :
    exponentPart (exponent.text ++ rest) = some (exponent.text.length, exponent.value) := by
  rcases exponent with ⟨mark, sign, digits, isMark, isSign, isDigits⟩
  have read := takeWhile_append_eq isDigits.2 stops
  obtain ⟨first, others, rfl⟩ := List.exists_cons_of_ne_nil isDigits.1
  rw [List.cons_append] at read
  rcases isSign with rfl | rfl | rfl
  · have digit := isDigits.2 first List.mem_cons_self
    have notMinus : first ≠ '-' := ne_of_isDigit digit rfl
    have notPlus : first ≠ '+' := ne_of_isDigit digit rfl
    simp [exponentPart, Exponent.text, Exponent.value, isMark, notMinus, notPlus, read,
      Nat.add_comm]
  · simp [exponentPart, Exponent.text, Exponent.value, isMark, read, Nat.add_comm,
      Nat.add_left_comm]
  · simp [exponentPart, Exponent.text, Exponent.value, isMark, read, Nat.add_comm,
      Nat.add_left_comm]

theorem exponentPart_eq_none (small : rest.head? ≠ some 'e') (large : rest.head? ≠ some 'E') :
    exponentPart rest = none := by
  cases rest with
  | nil => rfl
  | cons mark rest =>
      simp only [List.head?_cons, ne_eq, Option.some.injEq] at small large
      simp [exponentPart, small, large]

namespace Numeral

variable (numeral : Numeral)

theorem fractionPart_append (stops : NoDigit rest) (noPoint : rest.head? ≠ some '.') :
    fractionPart (numeral.fractionText ++ rest) = numeral.fraction := by
  unfold fractionText
  cases empty : numeral.fraction with
  | nil =>
      change fractionPart rest = []
      unfold fractionPart
      split
      · exact absurd rfl noPoint
      · rfl
  | cons first others =>
      rw [if_neg (by simp), List.cons_append, fractionPart, ← empty]
      exact takeWhile_append_eq numeral.isFraction stops

theorem length_fractionText :
    numeral.fractionText.length =
      if numeral.fraction.isEmpty then 0 else numeral.fraction.length + 1 := by
  unfold fractionText
  split <;> rfl

theorem exponentPart_append (isEnd : IsEnd rest) :
    exponentPart (numeral.exponentText ++ rest) =
      numeral.exponent.map fun exponent => (exponent.text.length, exponent.value) := by
  unfold exponentText
  cases numeral.exponent with
  | none => exact exponentPart_eq_none (isEnd.head?_ne rfl) (isEnd.head?_ne rfl)
  | some exponent => exact exponentPart_text exponent isEnd.noDigit

/-- Neither a digit nor a point comes after the fraction. -/
theorem noDigit_exponentText (isEnd : IsEnd rest) :
    NoDigit (numeral.exponentText ++ rest) ∧ (numeral.exponentText ++ rest).head? ≠ some '.' := by
  unfold exponentText
  cases numeral.exponent with
  | none => exact ⟨isEnd.noDigit, isEnd.head?_ne rfl⟩
  | some exponent =>
      have mark : (exponent.text ++ rest).head? = some exponent.mark := rfl
      simp only [Option.map_some, Option.getD_some, NoDigit, mark]
      rcases exponent.isMark with mark | mark <;> rw [mark] <;> simp

theorem noDigit_fractionText (isEnd : IsEnd rest) :
    NoDigit (numeral.fractionText ++ (numeral.exponentText ++ rest)) := by
  unfold fractionText
  split
  · exact (numeral.noDigit_exponentText isEnd).1
  · simp [NoDigit]

/-- A number starts with a digit, perhaps after a minus. -/
theorem exists_text_eq :
    ∃ digit others, digit.isDigit = true ∧
      (numeral.text = digit :: others ∨ numeral.text = '-' :: digit :: others) := by
  obtain ⟨digit, digits, whole⟩ := List.exists_cons_of_ne_nil numeral.isDigits.1
  refine ⟨digit, digits ++ (numeral.fractionText ++ numeral.exponentText),
    numeral.isDigits.2 digit (by simp [whole]), ?_⟩
  rw [text, signText, whole]
  cases numeral.negative with
  | true => exact .inr rfl
  | false => exact .inl rfl

/-- A number is scanned to its end, unless it is an integer of too many digits. -/
theorem scanNumber?_eq (isEnd : IsEnd rest) (follows : cursor.rest = numeral.text ++ rest) :
    scanNumber? cursor = some
      (if numeral.isInteger && decide (Number.digitLimit < numeral.whole.length) then
        cursor.fail (.tooManyDigits numeral.whole.length)
      else .ok (numeral.number, cursor.skip numeral.text.length)) := by
  have whole? := wholePart?_append numeral.isDigits numeral.isShort
    (numeral.noDigit_fractionText isEnd)
  obtain ⟨noDigit, noPoint⟩ := numeral.noDigit_exponentText isEnd
  have fraction? := numeral.fractionPart_append noDigit noPoint
  have exponent? := numeral.exponentPart_append isEnd
  rw [text, List.append_assoc, List.append_assoc, List.append_assoc] at follows
  have afterSign : cursor.rest.drop numeral.signText.length =
      numeral.whole ++ (numeral.fractionText ++ (numeral.exponentText ++ rest)) := by
    rw [follows, List.drop_left]
  have size : numeral.text.length = numeral.signText.length + numeral.whole.length +
      numeral.fractionText.length + numeral.exponentText.length := by
    simp only [text, List.length_append, Nat.add_assoc]
  obtain ⟨first, others, whole⟩ := List.exists_cons_of_ne_nil numeral.isDigits.1
  have notMinus : first ≠ '-' := ne_of_isDigit (numeral.isDigits.2 first (by simp [whole])) rfl
  unfold scanNumber?
  split
  rename_i negative signs sign
  have signed : negative = numeral.negative ∧ signs = numeral.signText.length := by
    rw [follows, signText] at sign
    rw [signText]
    cases minus : numeral.negative <;> simp [minus, whole, notMinus] at sign <;> simp [sign]
  obtain ⟨rfl, rfl⟩ := signed
  simp only [afterSign, whole?, Option.bind_eq_bind, Option.bind_some, List.drop_left, fraction?,
    ← length_fractionText, exponent?]
  rw [size]
  cases exponent : numeral.exponent with
  | some exponent => simp [isInteger, number, exponentText, exponent]
  | none =>
      by_cases integer : numeral.fraction = []
      · by_cases long : Number.digitLimit < numeral.whole.length
        · simp [isInteger, exponent, integer, long]
        · simp [isInteger, number, exponentText, exponent, integer, long]
      · simp [isInteger, number, exponentText, exponent, integer]

end Numeral

end Typeset.Json
