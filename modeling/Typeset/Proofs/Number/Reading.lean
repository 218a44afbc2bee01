import Mathlib.Data.List.TakeWhile
import Typeset.Number.Reading
import Typeset.Proofs.Number.Numeral
import Typeset.Proofs.Number.Shortest

/-!
# Reading back written numbers

A decimal text has an exact value, which reading it as a double rounds.  Main statements: the
text of a decimal has the value of that decimal, and the text of a double reads as that double.
-/

namespace Typeset.Number

open Binary64 Text

/-! ## Characters -/

/-- A text is not trimmed when neither its first nor its last character is dropped. -/
theorem trim_eq_self_of_ends {drops : Char → Bool} {text : List Char}
    (head : text.head?.any drops = false) (last : text.getLast?.any drops = false) :
    trim drops text = text := by
  have untouched : ∀ rest : List Char, rest.head?.any drops = false →
      rest.dropWhile drops = rest := by
    intro rest kept
    cases rest with
    | nil => rfl
    | cons c rest => rw [List.dropWhile_cons, if_neg (by simpa using kept)]
  rw [trim, untouched text head, untouched text.reverse (by rwa [List.head?_reverse]),
    List.reverse_reverse]

theorem trim_eq_self {drops : Char → Bool} {text : List Char}
    (keeps : ∀ c ∈ text, drops c = false) : trim drops text = text := by
  apply trim_eq_self_of_ends
  · exact (Option.any_eq_false _ _).mpr fun c first => keeps c (List.mem_of_mem_head? first)
  · exact (Option.any_eq_false _ _).mpr fun c last => keeps c (List.mem_of_getLast? last)

/-- Letters and digits stand between the digit zero and the small letter z. -/
theorem toNat_bounds_of_isAlphanum {c : Char} (alphanum : c.isAlphanum = true) :
    0x30 ≤ c.toNat ∧ c.toNat ≤ 0x7A := by
  have bounds : ∀ {low high : Char}, 0x30 ≤ low.toNat → high.toNat ≤ 0x7A →
      low.val ≤ c.val → c.val ≤ high.val → 0x30 ≤ c.toNat ∧ c.toNat ≤ 0x7A := by
    intro low high start stop above below
    exact ⟨Nat.le_trans start (UInt32.le_iff_toNat_le.mp above),
      Nat.le_trans (UInt32.le_iff_toNat_le.mp below) stop⟩
  rcases Bool.or_eq_true_iff.mp alphanum with letter | digit
  · rcases Bool.or_eq_true_iff.mp letter with upper | lower
    · obtain ⟨above, below⟩ := of_decide_eq_true upper
      exact @bounds 'A' 'Z' (by decide) (by decide) above below
    · obtain ⟨above, below⟩ := Bool.and_eq_true_iff.mp lower
      exact @bounds 'a' 'z' (by decide) (by decide) (of_decide_eq_true above)
        (of_decide_eq_true below)
  · obtain ⟨above, below⟩ := Bool.and_eq_true_iff.mp digit
    exact @bounds '0' '9' (by decide) (by decide) (of_decide_eq_true above)
      (of_decide_eq_true below)

/-- The characters of numbers are printable ASCII characters. -/
theorem toNat_bounds_of_isNumeralChar {c : Char} (numeral : isNumeralChar c = true) :
    0x2B ≤ c.toNat ∧ c.toNat < 0x80 := by
  simp only [isNumeralChar, Bool.or_eq_true, beq_iff_eq] at numeral
  rcases numeral with ((alphanum | rfl) | rfl) | rfl
  · have bounds := toNat_bounds_of_isAlphanum alphanum
    omega
  · decide
  · decide
  · decide

theorem isPadding_of_isNumeralChar {c : Char} (numeral : isNumeralChar c = true) :
    isPadding c = false := by
  have bounds := toNat_bounds_of_isNumeralChar numeral
  simp [isPadding, isEdge, isSpacing]
  omega

theorem asciiDigit_of_isNumeralChar {c : Char} (numeral : isNumeralChar c = true) :
    asciiDigit c = c := by
  have bounds := toNat_bounds_of_isNumeralChar numeral
  unfold asciiDigit decimalDigit?
  by_cases digit : 0x30 ≤ c.toNat ∧ c.toNat < 0x3A
  · have found : (digitZeros.find? fun base => base ≤ c.toNat && c.toNat < base + 10) =
        some 0x30 := by
      simp [digitZeros, digit]
    have kept : 0x30 + (c.toNat - 0x30) = c.toNat := by omega
    simp only [found, Option.map_some, kept, Char.ofNat_toNat]
  · have missing : (digitZeros.find? fun base => base ≤ c.toNat && c.toNat < base + 10) = none := by
      simp [digitZeros]
      omega
    simp only [missing, Option.map_none]

theorem plain_eq_self {text : List Char} (numeral : text.all isNumeralChar = true) :
    plain text = text := by
  have each := List.all_eq_true.mp numeral
  rw [plain, trim_eq_self fun c member => isPadding_of_isNumeralChar (each c member)]
  conv_rhs => rw [← List.map_id text]
  exact List.map_congr_left fun c member => asciiDigit_of_isNumeralChar (each c member)

theorem dropUnderscores_eq_self {text : List Char} (none : '_' ∉ text) (afterDigit : Bool) :
    dropUnderscores afterDigit text = some text := by
  induction text generalizing afterDigit with
  | nil => rfl
  | cons c rest ih =>
      obtain ⟨different, noneInRest⟩ := not_or.mp (List.mem_cons.not.mp none)
      rw [dropUnderscores]
      · rw [ih noneInRest]
        simp [Ne.symm different]
      · intro next others isUnderscore
        exact absurd isUnderscore.symm different

/-! ## Signs and digits -/

theorem digits?_eq_some {digits : List Char} (nonempty : digits ≠ [])
    (allDigits : ∀ c ∈ digits, c.isDigit = true) : digits? digits = some (decimalValue digits) := by
  have noOther : (digits.any fun c => !c.isDigit) = false := by
    apply List.any_eq_false.mpr
    intro c member
    simp [allDigits c member]
  simp [digits?, nonempty, noOther]

theorem isDigit_of_mem_digitsText {n : Nat} {c : Char} (member : c ∈ digitsText n) :
    c.isDigit = true :=
  Nat.isDigit_of_mem_toDigits (by decide) (by decide) member

theorem decimalValue_digitsText (n : Nat) : decimalValue (digitsText n) = n :=
  Nat.ofDigitChars_ten_toDigits

theorem decimalValue_append (first second : List Char) :
    decimalValue (first ++ second) =
      decimalValue first * 10 ^ second.length + decimalValue second := by
  rw [Nat.mul_comm]
  exact (Nat.ofDigitChars_append 0).trans Nat.ofDigitChars_eq_ofDigitChars_zero

theorem isDigit_of_mem_zeros {count : Nat} {c : Char} (member : c ∈ List.replicate count '0') :
    c.isDigit = true := by
  rw [List.eq_of_mem_replicate member]
  rfl

theorem decimalValue_zeros (count : Nat) : decimalValue (List.replicate count '0') = 0 := by
  have zeros : Nat.ofDigitChars 10 (List.replicate count '0') 0 = 10 ^ count * 0 :=
    Nat.ofDigitChars_replicate_zero
  rw [Nat.mul_zero] at zeros
  exact zeros

/-! ## Decimals -/

theorem ne_of_isDigit {c : Char} (digit : c.isDigit = true) (special : Char)
    (notDigit : special.isDigit = false) : c ≠ special := by
  rintro rfl
  rw [digit] at notDigit
  contradiction

section Mantissa

variable {before after : List Char}

theorem readMantissa?_digits (nonempty : before ≠ [])
    (digits : ∀ c ∈ before, c.isDigit = true) :
    readMantissa? before = some (decimalValue before, 0) := by
  have noPoint : ∀ c ∈ before, (c != '.') = true := fun c member =>
    bne_iff_ne.mpr (ne_of_isDigit (digits c member) '.' (by decide))
  have taken : before.takeWhile (· != '.') = before :=
    List.takeWhile_eq_self_iff.mpr noPoint
  have dropped : before.dropWhile (· != '.') = [] :=
    List.dropWhile_eq_nil_iff.mpr noPoint
  simp only [readMantissa?, taken, dropped, List.drop_nil, List.append_nil,
    digits?_eq_some nonempty digits, Option.map_some, List.length_nil]

theorem readMantissa?_point (nonempty : before ++ after ≠ [])
    (digits : ∀ c ∈ before ++ after, c.isDigit = true) :
    readMantissa? (before ++ '.' :: after) =
      some (decimalValue (before ++ after), after.length) := by
  have noPoint : ∀ c ∈ before, (c != '.') = true := fun c member =>
    bne_iff_ne.mpr (ne_of_isDigit (digits c (List.mem_append_left _ member)) '.' (by decide))
  have taken : (before ++ '.' :: after).takeWhile (· != '.') = before := by
    rw [List.takeWhile_append_of_pos noPoint]
    simp
  have dropped : (before ++ '.' :: after).dropWhile (· != '.') = '.' :: after := by
    rw [List.dropWhile_append_of_pos noPoint]
    simp
  simp only [readMantissa?, taken, dropped, List.drop_succ_cons, List.drop_zero,
    digits?_eq_some nonempty digits, Option.map_some]

end Mantissa

section Decimal

/-- The decimal that a text without sign stands for. -/
def decimal? (text : List Char) : Option Decimal := do
  let isMark (c : Char) : Bool := c == 'e' || c == 'E'
  let (value, places) ← readMantissa? (text.takeWhile fun c => !isMark c)
  match text.dropWhile fun c => !isMark c with
  | [] => return ⟨value, -places⟩
  | _ :: exponentText =>
      let (minus, exponentDigits) := takeSign exponentText
      let size ← digits? exponentDigits
      return ⟨value, (if minus then -(size : Int) else size) - places⟩

/-- Reading a text as a double rounds the decimal that it stands for. -/
theorem readDecimal?_eq (negative : Bool) (text : List Char) :
    readDecimal? negative text =
      (decimal? text).map fun decimal => decimal.toBinary64 negative := by
  unfold readDecimal? decimal?
  dsimp only
  cases readMantissa? (text.takeWhile fun c => !(c == 'e' || c == 'E')) with
  | none => rfl
  | some read =>
      simp only [Option.bind_eq_bind, Option.bind_some]
      cases text.dropWhile fun c => !(c == 'e' || c == 'E') with
      | nil => rfl
      | cons mark exponentText =>
          dsimp only
          cases digits? (takeSign exponentText).2 <;> rfl

variable {mantissa : List Char} {value places : Nat}

/-- No character of a text marks an exponent. -/
def Unmarked (text : List Char) : Prop :=
  ∀ c ∈ text, (!(c == 'e' || c == 'E')) = true

theorem decimal?_of_mantissa (unmarked : Unmarked mantissa)
    (read : readMantissa? mantissa = some (value, places)) :
    decimal? mantissa = some ⟨value, -places⟩ := by
  have taken : mantissa.takeWhile (fun c => !(c == 'e' || c == 'E')) = mantissa :=
    List.takeWhile_eq_self_iff.mpr unmarked
  have dropped : mantissa.dropWhile (fun c => !(c == 'e' || c == 'E')) = [] :=
    List.dropWhile_eq_nil_iff.mpr unmarked
  simp only [decimal?, taken, dropped, read]
  rfl

theorem decimal?_of_mark (unmarked : Unmarked mantissa)
    (read : readMantissa? mantissa = some (value, places)) {exponentText digits : List Char}
    {minus : Bool} {size : Nat} (signed : takeSign exponentText = (minus, digits))
    (sized : digits? digits = some size) :
    decimal? (mantissa ++ 'e' :: exponentText) =
      some ⟨value, (if minus then -(size : Int) else size) - places⟩ := by
  have taken : (mantissa ++ 'e' :: exponentText).takeWhile (fun c => !(c == 'e' || c == 'E')) =
      mantissa := by
    rw [List.takeWhile_append_of_pos unmarked]
    simp
  have dropped : (mantissa ++ 'e' :: exponentText).dropWhile (fun c => !(c == 'e' || c == 'E')) =
      'e' :: exponentText := by
    rw [List.dropWhile_append_of_pos unmarked]
    simp
  simp only [decimal?, taken, dropped, read, signed, sized]
  rfl

theorem decimal?_exponentText (unmarked : Unmarked mantissa)
    (read : readMantissa? mantissa = some (value, places)) (layout : Layout) (exponent : Int) :
    decimal? (mantissa ++ exponentText layout exponent) = some ⟨value, exponent - places⟩ := by
  let digits := List.replicate (layout.exponentDigits - (digitsText exponent.natAbs).length) '0' ++
    digitsText exponent.natAbs
  have isDigits : ∀ c ∈ digits, c.isDigit = true := by
    intro c member
    rcases List.mem_append.mp member with zero | digit
    · exact isDigit_of_mem_zeros zero
    · exact isDigit_of_mem_digitsText digit
  have nonempty : digits ≠ [] := by
    simp [digits, digitsText]
  have sized : digits? digits = some exponent.natAbs := by
    rw [digits?_eq_some nonempty isDigits, decimalValue_append, decimalValue_zeros,
      decimalValue_digitsText, Nat.zero_mul, Nat.zero_add]
  by_cases below : exponent < 0
  · have written : exponentText layout exponent = 'e' :: '-' :: digits := by
      simp [exponentText, below, digits]
    have minus : takeSign ('-' :: digits) = (true, digits) := rfl
    have size : -(exponent.natAbs : Int) = exponent := by omega
    rw [written, decimal?_of_mark unmarked read minus sized, if_pos rfl, size]
  · have written : exponentText layout exponent = 'e' :: '+' :: digits := by
      simp [exponentText, below, digits]
    have plus : takeSign ('+' :: digits) = (false, digits) := rfl
    have size : (exponent.natAbs : Int) = exponent := by omega
    rw [written, decimal?_of_mark unmarked read plus sized]
    simp [size]

end Decimal

section Point

variable {before after : List Char}

theorem unmarked_of_isDigit (digits : ∀ c ∈ before, c.isDigit = true) : Unmarked before := by
  intro c member
  simp [ne_of_isDigit (digits c member) 'e' (by decide),
    ne_of_isDigit (digits c member) 'E' (by decide)]

theorem unmarked_point (digits : ∀ c ∈ before ++ after, c.isDigit = true) :
    Unmarked (before ++ '.' :: after) := by
  intro c member
  rcases List.mem_append.mp member with inBefore | inRest
  · exact unmarked_of_isDigit digits c (List.mem_append_left _ inBefore)
  · rcases List.mem_cons.mp inRest with rfl | inAfter
    · rfl
    · exact unmarked_of_isDigit digits c (List.mem_append_right _ inAfter)

/-- Digits around a point. -/
theorem decimal?_point (nonempty : before ++ after ≠ [])
    (digits : ∀ c ∈ before ++ after, c.isDigit = true) :
    decimal? (before ++ '.' :: after) =
      some ⟨decimalValue (before ++ after), -after.length⟩ :=
  decimal?_of_mantissa (unmarked_point digits) (readMantissa?_point nonempty digits)

end Point

/-! ## Layouts -/

section Layouts

variable {digits : List Char} (isDigits : ∀ c ∈ digits, c.isDigit = true) {decimal : Decimal}
  (size : decimalValue digits = decimal.digits)

include isDigits size

/-- Zeros between the digits and the point. -/
theorem value_digits_zeros (whole : 0 ≤ decimal.power) :
    (decimal? (digits ++ List.replicate decimal.power.toNat '0' ++ ['.', '0'])).map
      Decimal.value = some decimal.value := by
  have allDigits : ∀ c ∈ (digits ++ List.replicate decimal.power.toNat '0') ++ ['0'],
      c.isDigit = true := by
    intro c member
    simp only [List.mem_append, List.mem_singleton] at member
    rcases member with (digit | zero) | rfl
    · exact isDigits c digit
    · exact isDigit_of_mem_zeros zero
    · rfl
  have value : decimalValue ((digits ++ List.replicate decimal.power.toNat '0') ++ ['0']) =
      decimal.digits * 10 ^ decimal.power.toNat * 10 := by
    rw [decimalValue_append, decimalValue_append, decimalValue_zeros, size, List.length_replicate]
    rfl
  have power : (10 : ℚ) ^ decimal.power = 10 ^ decimal.power.toNat := by
    rw [← zpow_natCast, Int.toNat_of_nonneg whole]
  rw [decimal?_point (by simp) allDigits, value, Option.map_some, Decimal.value, Decimal.value,
    power]
  push_cast
  simp

/-- A point among the digits. -/
theorem value_among (nonempty : digits ≠ []) {before : Nat}
    (count : before = (digits.length : Int) + decimal.power) (inside : decimal.power ≤ 0) :
    (decimal? (digits.take before ++ '.' :: digits.drop before)).map Decimal.value =
      some decimal.value := by
  have rejoined : digits.take before ++ digits.drop before = digits :=
    List.take_append_drop before digits
  have places : -((digits.drop before).length : Int) = decimal.power := by
    rw [List.length_drop]
    omega
  rw [decimal?_point (by rwa [rejoined]) (by rwa [rejoined]), rejoined, size, places]
  rfl

/-- Zeros between the point and the digits. -/
theorem value_zeros_digits {zeros : Nat} (count : (zeros : Int) + digits.length = -decimal.power) :
    (decimal? ('0' :: '.' :: (List.replicate zeros '0' ++ digits))).map Decimal.value =
      some decimal.value := by
  have allDigits : ∀ c ∈ ['0'] ++ (List.replicate zeros '0' ++ digits), c.isDigit = true := by
    intro c member
    simp only [List.mem_append, List.mem_singleton] at member
    rcases member with rfl | zero | digit
    · rfl
    · exact isDigit_of_mem_zeros zero
    · exact isDigits c digit
  have value : decimalValue (['0'] ++ (List.replicate zeros '0' ++ digits)) = decimal.digits := by
    rw [decimalValue_append, decimalValue_append, decimalValue_zeros, size]
    simp [decimalValue]
  have places : -((List.replicate zeros '0' ++ digits).length : Int) = decimal.power := by
    rw [List.length_append, List.length_replicate]
    omega
  have read := decimal?_point (by simp) allDigits
  rw [value, places] at read
  exact congrArg (Option.map Decimal.value) read

/-- The digits alone with an exponent. -/
theorem value_leading (nonempty : digits ≠ []) (layout : Layout) :
    (decimal? (digits ++ exponentText layout decimal.power)).map Decimal.value =
      some decimal.value := by
  have read := decimal?_exponentText (unmarked_of_isDigit isDigits)
    (readMantissa?_digits nonempty isDigits) layout decimal.power
  rw [size, Nat.cast_zero, sub_zero] at read
  exact congrArg (Option.map Decimal.value) read

/-- A point after the first digit, with an exponent. -/
theorem value_scientific {first : Char} {others : List Char} (cut : digits = [first] ++ others)
    (layout : Layout) :
    (decimal? (first :: '.' ::
      (others ++ exponentText layout (others.length + decimal.power)))).map Decimal.value =
        some decimal.value := by
  rw [cut] at isDigits size
  have read := decimal?_exponentText (unmarked_point isDigits)
    (readMantissa?_point (by simp) isDigits) layout (others.length + decimal.power)
  rw [size, add_sub_cancel_left] at read
  exact congrArg (Option.map Decimal.value) read

end Layouts

/-- The text of a decimal has the value of the decimal. -/
theorem value_text (layout : Layout) (decimal : Decimal) :
    (decimal? (decimal.text layout)).map Decimal.value = some decimal.value := by
  have isDigits : ∀ c ∈ digitsText decimal.digits, c.isDigit = true := fun c =>
    isDigit_of_mem_digitsText
  have nonempty : digitsText decimal.digits ≠ [] := Nat.toDigits_ne_nil
  have size := decimalValue_digitsText decimal.digits
  unfold Decimal.text
  dsimp only
  generalize digitsText decimal.digits = digits at *
  split
  · split
    · rename_i whole
      exact value_digits_zeros isDigits size whole
    · split
      · exact value_among isDigits size nonempty (by omega) (by omega)
      · exact value_zeros_digits isDigits size (by omega)
  · cases digits with
    | nil => exact absurd rfl nonempty
    | cons first others =>
        have leading : ((first :: others).length : Int) + decimal.power - 1 =
            others.length + decimal.power := by
          rw [List.length_cons]
          omega
        rw [leading]
        cases others with
        | nil =>
            rw [List.length_nil, Nat.cast_zero, zero_add]
            exact value_leading isDigits size nonempty layout
        | cons second others => exact value_scientific isDigits size rfl layout

/-- The text of a decimal reads as the double nearest to it. -/
theorem readDecimal?_text (layout : Layout) {decimal : Decimal} (nonzero : decimal.digits ≠ 0)
    (negative : Bool) :
    readDecimal? negative (decimal.text layout) = some (decimal.toBinary64 negative) := by
  obtain ⟨read, found, value⟩ := Option.map_eq_some_iff.mp (value_text layout decimal)
  have readNonzero : read.digits ≠ 0 := by
    intro zero
    have valueNonzero : decimal.value ≠ 0 := by
      unfold Decimal.value
      positivity
    rw [← value, Decimal.value, zero, Nat.cast_zero, zero_mul] at valueNonzero
    exact valueNonzero rfl
  rw [readDecimal?_eq, found, Option.map_some, Decimal.toBinary64_congr readNonzero nonzero value]

/-! ## Doubles -/

theorem takeSign_of_isDigit {first : Char} {rest : List Char} (digit : first.isDigit = true) :
    takeSign (first :: rest) = (false, first :: rest) := by
  unfold takeSign
  split
  · simp_all
  · simp_all
  · rfl

/-- A sign is told from what starts with a digit. -/
theorem takeSign_signed {first : Char} (digit : first.isDigit = true) (negative : Bool)
    (rest : List Char) :
    takeSign ((if negative then ['-'] else []) ++ first :: rest) = (negative, first :: rest) := by
  cases negative with
  | true => rfl
  | false => exact takeSign_of_isDigit digit

theorem toLower_of_isDigit {c : Char} (digit : c.isDigit = true) : c.toLower = c := by
  simp only [Char.isDigit, Bool.and_eq_true, decide_eq_true_iff, ge_iff_le,
    UInt32.le_iff_toNat_le] at digit
  unfold Char.toLower
  rw [dif_neg]
  simp only [ge_iff_le, UInt32.le_iff_toNat_le]
  have nine : '9'.val.toNat < 'A'.val.toNat := by decide
  omega

/-- A number that starts with a digit is read as a decimal, whatever its sign. -/
theorem readDouble?_of_isDigit {first : Char} {rest : List Char} (digit : first.isDigit = true)
    (numeral : (first :: rest).all isNumeralChar = true) (negative : Bool) :
    readDouble? ((if negative then ['-'] else []) ++ first :: rest) =
      readDecimal? negative (first :: rest) := by
  have sign : (if negative then ['-'] else []).all isNumeralChar = true := by
    split <;> rfl
  have signed : ((if negative then ['-'] else []) ++ first :: rest).all isNumeralChar = true := by
    rw [List.all_append, sign, numeral]
    rfl
  have noUnderscore : '_' ∉ (if negative then ['-'] else []) ++ first :: rest := by
    intro member
    have numeral := List.all_eq_true.mp signed _ member
    contradiction
  simp only [readDouble?, plain_eq_self signed, dropUnderscores_eq_self noUnderscore,
    Option.bind_eq_bind, Option.bind_some, takeSign_signed digit]
  -- None of the names starts with a digit.
  have notNamed : ∀ {letter : Char} {letters : List Char}, letter.isDigit = false →
      String.ofList ((first :: rest).map Char.toLower) ≠ String.ofList (letter :: letters) := by
    intro letter letters notDigit equal
    have head := (List.cons.inj (String.ofList_injective equal)).1
    rw [← head, toLower_of_isDigit digit, digit] at notDigit
    contradiction
  split
  · rename_i named
    exact absurd named (@notNamed 'i' ['n', 'f'] rfl)
  · rename_i named
    exact absurd named (@notNamed 'i' ['n', 'f', 'i', 'n', 'i', 't', 'y'] rfl)
  · rename_i named
    exact absurd named (@notNamed 'n' ['a', 'n'] rfl)
  · rfl

theorem exists_text_eq_cons (layout : Layout) (decimal : Decimal) :
    ∃ first rest, decimal.text layout = first :: rest ∧ first.isDigit = true := by
  have isDigits : ∀ c ∈ digitsText decimal.digits, c.isDigit = true := fun c =>
    isDigit_of_mem_digitsText
  have nonempty : digitsText decimal.digits ≠ [] := Nat.toDigits_ne_nil
  unfold Decimal.text
  dsimp only
  generalize digitsText decimal.digits = digits at *
  cases digits with
  | nil => exact absurd rfl nonempty
  | cons first others =>
      have digit := isDigits first List.mem_cons_self
      split
      · split
        · exact ⟨first, _, rfl, digit⟩
        · split
          · rename_i leading
            obtain ⟨count, before⟩ : ∃ count, (((first :: others).length : Int) +
                decimal.power - 1 + 1).toNat = count + 1 :=
              Nat.exists_eq_succ_of_ne_zero (by omega)
            rw [before]
            exact ⟨first, _, rfl, digit⟩
          · exact ⟨'0', _, rfl, rfl⟩
      · cases others with
        | nil => exact ⟨first, _, rfl, digit⟩
        | cons second others => exact ⟨first, _, rfl, digit⟩

/-- The text of a decimal has a point or an exponent. -/
theorem exists_mem_text (layout : Layout) (decimal : Decimal) :
    ∃ c ∈ decimal.text layout, c = '.' ∨ c = 'e' := by
  have nonempty : digitsText decimal.digits ≠ [] := Nat.toDigits_ne_nil
  unfold Decimal.text
  dsimp only
  generalize digitsText decimal.digits = digits at *
  split
  · refine ⟨'.', ?_, .inl rfl⟩
    split
    · simp
    · split <;> simp
  · refine ⟨'e', ?_, .inr rfl⟩
    cases digits with
    | nil => exact absurd rfl nonempty
    | cons first others => cases others <;> simp [exponentText]

/-- The text of a finite double reads as that double. -/
theorem readDouble?_doubleText (x : Finite) :
    readDouble? (doubleText (.finite x)).toList = some (.finite x) := by
  unfold doubleText
  dsimp only
  split
  · rename_i zero
    have mantissa : x.mantissa = 0 := by
      simpa [Finite.isZero] using zero
    have read : readDecimal? x.negative ['0', '.', '0'] =
        some (ofDecimal x.negative (decimalValue ['0', '0']) (-1)) := by
      have found := @decimal?_point ['0'] ['0'] (by simp) (by simp)
      rw [readDecimal?_eq]
      exact congrArg (Option.map fun decimal => Decimal.toBinary64 decimal x.negative) found
    have digit : '0'.isDigit = true := rfl
    have isZero : ofDecimal x.negative (decimalValue ['0', '0']) (-1) = .finite x := by
      have value : decimalValue ['0', '0'] = 0 := rfl
      rw [value, ofDecimal, if_pos rfl, round_zero, ofParts_zero mantissa]
    rw [String.toList_ofList, readDouble?_of_isDigit digit rfl, read, isZero]
  · rename_i notZero
    have nonzero : x.mantissa ≠ 0 := by
      simpa [Finite.isZero] using notZero
    obtain ⟨found, reads⟩ := readsBack_iff.mp (readsBack_shortest nonzero)
    obtain ⟨first, rest, text, digit⟩ := exists_text_eq_cons doubleLayout (shortest x)
    have numeral := all_isNumeralChar_decimalText doubleLayout (shortest x)
    have read := readDecimal?_text doubleLayout found x.negative
    rw [text] at numeral read
    rw [String.toList_ofList, text, readDouble?_of_isDigit digit numeral, read, reads]

end Typeset.Number
