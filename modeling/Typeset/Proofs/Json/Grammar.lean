import Typeset.Json.Reader

/-!
# The grammar of JSON texts

Texts are related to the values that they stand for: words, strings and numbers, and lists and
objects of such texts with white space around them.  An object stands for the last value of each
name in it, in the place of the first.  The grammar is that of the standard, with the words for
numbers that are not finite; an escaped half of a surrogate pair may stand alone.
-/

namespace Typeset.Json

/-- Nothing but white space. -/
def IsBlank (text : List Char) : Prop :=
  ∀ c ∈ text, Cursor.isSpace c = true

instance (text : List Char) : Decidable (IsBlank text) :=
  decidable_of_iff (text.all Cursor.isSpace = true) List.all_eq_true

/-! ## Strings -/

/-- The code of the first half of a surrogate pair. -/
def IsHigh (code : Nat) : Prop :=
  0xD800 ≤ code ∧ code ≤ 0xDBFF

/-- The code of the second half of a surrogate pair. -/
def IsLow (code : Nat) : Prop :=
  0xDC00 ≤ code ∧ code ≤ 0xDFFF

/-- The character that two halves stand for. -/
def joined (high low : Nat) : Char :=
  Char.ofNat (0x10000 + (high - 0xD800) * 0x400 + (low - 0xDC00))

/-- The escape of a second half comes first. -/
def StartsLow (text : List Char) : Prop :=
  ∃ a b c d rest code, text = '\\' :: 'u' :: a :: b :: c :: d :: rest ∧
    hexCode? a b c d = some code ∧ IsLow code

/-- What stands between the quotes of a string, and the characters that it stands for. -/
inductive StringText : List Char → List Char → Prop where
  | nil : StringText [] []
  | plain {c : Char} {text chars : List Char} (visible : 0x20 ≤ c.toNat) (notQuote : c ≠ '\x22')
      (notEscape : c ≠ '\\') (rest : StringText text chars) : StringText (c :: text) (c :: chars)
  | escape {letter c : Char} {text chars : List Char} (simple : simpleEscape? letter = some c)
      (rest : StringText text chars) : StringText ('\\' :: letter :: text) (c :: chars)
  | code {a b c d : Char} {code : Nat} {text chars : List Char}
      (digits : hexCode? a b c d = some code) (unpaired : IsHigh code → ¬StartsLow text)
      (rest : StringText text chars) :
      StringText ('\\' :: 'u' :: a :: b :: c :: d :: text) (codeChar code :: chars)
  | pair {a b c d e f g h : Char} {high low : Nat} {text chars : List Char}
      (digits : hexCode? a b c d = some high) (isHigh : IsHigh high)
      (lowDigits : hexCode? e f g h = some low) (isLow : IsLow low)
      (rest : StringText text chars) :
      StringText ('\\' :: 'u' :: a :: b :: c :: d :: '\\' :: 'u' :: e :: f :: g :: h :: text)
        (joined high low :: chars)

/-- A character that stands for itself in a string. -/
def isVerbatim (c : Char) : Bool :=
  decide (0x20 ≤ c.toNat) && c != '\x22' && c != '\\'

theorem stringText_self {text : List Char} (verbatim : text.all isVerbatim = true) :
    StringText text text := by
  induction text with
  | nil => exact .nil
  | cons c text ih =>
      rw [List.all_cons, Bool.and_eq_true] at verbatim
      obtain ⟨first, verbatim⟩ := verbatim
      simp only [isVerbatim, Bool.and_eq_true, decide_eq_true_eq, bne_iff_ne] at first
      exact .plain first.1.1 first.1.2 first.2 (ih verbatim)

/-- A text between quotes. -/
def quoted (text : List Char) : List Char :=
  '\x22' :: text ++ ['\x22']

/-! ## Numbers -/

/-- One or more digits. -/
def IsDigits (text : List Char) : Prop :=
  text ≠ [] ∧ ∀ c ∈ text, c.isDigit = true

instance (text : List Char) : Decidable (IsDigits text) :=
  decidable_of_iff (text ≠ [] ∧ text.all Char.isDigit = true) (by rw [IsDigits, List.all_eq_true])

/-- The exponent of a number. -/
structure Exponent where
  mark : Char
  sign : List Char
  digits : List Char
  isMark : mark = 'e' ∨ mark = 'E'
  isSign : sign = [] ∨ sign = ['+'] ∨ sign = ['-']
  isDigits : IsDigits digits

namespace Exponent

/-- An exponent as it is written. -/
def text (exponent : Exponent) : List Char :=
  exponent.mark :: exponent.sign ++ exponent.digits

/-- The power of ten that an exponent stands for. -/
def value (exponent : Exponent) : Int :=
  if exponent.sign = ['-'] then -(Text.decimalValue exponent.digits : Int)
  else Text.decimalValue exponent.digits

end Exponent

/-- A number: a whole part without needless zeros, the digits after a point, if there are any, and
perhaps an exponent. -/
structure Numeral where
  negative : Bool
  whole : List Char
  fraction : List Char
  exponent : Option Exponent
  isDigits : IsDigits whole
  isShort : whole.head? = some '0' → whole = ['0']
  isFraction : ∀ c ∈ fraction, c.isDigit = true

namespace Numeral

/-- The sign of a negative number. -/
def signText (numeral : Numeral) : List Char :=
  if numeral.negative then ['-'] else []

/-- A point and the digits after it, if there are any. -/
def fractionText (numeral : Numeral) : List Char :=
  if numeral.fraction.isEmpty then [] else '.' :: numeral.fraction

/-- The exponent, if there is one. -/
def exponentText (numeral : Numeral) : List Char :=
  (numeral.exponent.map Exponent.text).getD []

/-- A number as it is written. -/
def text (numeral : Numeral) : List Char :=
  numeral.signText ++ (numeral.whole ++ (numeral.fractionText ++ numeral.exponentText))

/-- A number is an integer when it has neither a fraction nor an exponent. -/
def isInteger (numeral : Numeral) : Bool :=
  numeral.fraction.isEmpty && numeral.exponent.isNone

/-- The number that is written: an exact integer, or the nearest double. -/
def number (numeral : Numeral) : Number :=
  let value := Text.decimalValue (numeral.whole ++ numeral.fraction)
  if numeral.isInteger then .int (if numeral.negative then -(value : Int) else value)
  else
    .double (Binary64.ofDecimal numeral.negative value
      ((numeral.exponent.map Exponent.value).getD 0 - numeral.fraction.length))

/-- A number is no integer of more digits than the limit. -/
def Fits (numeral : Numeral) (limit : Nat) : Prop :=
  numeral.isInteger = true → numeral.whole.length ≤ limit

end Numeral

/-! ## Lists and objects -/

/-- White space and what comes after it. -/
structure Part where
  before : List Char
  body : List Char
  isBlank : IsBlank before

/-- A part as it is written. -/
def Part.whole (part : Part) : List Char :=
  part.before ++ part.body

/-- Parts with commas between them, without the white space before the first one. -/
def partsText (first : Part) (others : List Part) : List Char :=
  first.body ++ others.flatMap fun part => ',' :: part.whole

/-- Parts with commas between them, or else white space, between two brackets. -/
def enclosed (opening closing : Char) (blank : List Char) : List Part → List Char
  | [] => opening :: (blank ++ [closing])
  | first :: others => opening :: (first.before ++ (partsText first others ++ [closing]))

/-- A text with white space around it, and the value that it stands for. -/
structure Item where
  before : List Char
  text : List Char
  after : List Char
  value : Value
  isBlankBefore : IsBlank before
  isBlankAfter : IsBlank after

/-- An item as it is written. -/
def Item.part (item : Item) : Part :=
  ⟨item.before, item.text ++ item.after, item.isBlankBefore⟩

/-- A member of an object: white space, a name, white space, a colon and an item. -/
structure Member where
  before : List Char
  spelling : List Char
  name : List Char
  between : List Char
  item : Item
  isBlankBefore : IsBlank before
  isBlankBetween : IsBlank between
  spells : StringText spelling name

namespace Member

/-- A member as it is written. -/
def part (member : Member) : Part :=
  ⟨member.before, quoted member.spelling ++ (member.between ++ ':' :: member.item.part.whole),
    member.isBlankBefore⟩

/-- The name and the value of a member. -/
def entry (member : Member) : String × Value :=
  (String.ofList member.name, member.item.value)

end Member

/-- A list as it is written. -/
def listText (blank : List Char) (items : List Item) : List Char :=
  enclosed '[' ']' blank (items.map Item.part)

/-- An object as it is written. -/
def objectText (blank : List Char) (members : List Member) : List Char :=
  enclosed '\x7b' '\x7d' blank (members.map Member.part)

/-- The last value of each name, in the place of the first. -/
def lastValues (entries : List (String × Value)) : List (String × Value) :=
  entries.foldl (fun members entry => putMember members entry.1 entry.2) []

/-- A text of a value; its integers have no more digits than the limit. -/
inductive Written (limit : Nat) : List Char → Value → Prop where
  | word {word : String} {value : Value} (listed : (word, value) ∈ words) :
      Written limit word.toList value
  | string {text chars : List Char} (spells : StringText text chars) :
      Written limit (quoted text) (.text (String.ofList chars))
  | number {numeral : Numeral} (fits : numeral.Fits limit) :
      Written limit numeral.text (.number numeral.number)
  | list {blank : List Char} {items : List Item} (isBlank : IsBlank blank)
      (written : ∀ item ∈ items, Written limit item.text item.value) :
      Written limit (listText blank items) (.list (items.map Item.value))
  | object {blank : List Char} {members : List Member} (isBlank : IsBlank blank)
      (written : ∀ member ∈ members, Written limit member.item.text member.item.value) :
      Written limit (objectText blank members) (.object (lastValues (members.map Member.entry)))

/-- A text of an object, with the names and the values of its members in order. -/
inductive ObjectText (limit : Nat) : List Char → List (String × Value) → Prop where
  | intro {before blank after : List Char} {members : List Member} (isBlankBefore : IsBlank before)
      (isBlank : IsBlank blank) (isBlankAfter : IsBlank after)
      (written : ∀ member ∈ members, Written limit member.item.text member.item.value) :
      ObjectText limit (before ++ objectText blank members ++ after) (members.map Member.entry)

end Typeset.Json
