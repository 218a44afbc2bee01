/-!
# Punycode

The labels of a host name that are not ASCII are written in ASCII: first their
ASCII characters, then, as numbers of variable length, where the others have to
be inserted.
-/

namespace Typeset.Url.Punycode

/-- A digit of base 36 as a character. -/
def digitChar (digit : Nat) : Char :=
  if digit < 26 then Char.ofNat (0x61 + digit) else Char.ofNat (0x16 + digit)

/-- The value of a digit of base 36, in either case. -/
def digitValue? (c : Char) : Option Nat :=
  if 'a' ≤ c && c ≤ 'z' then some (c.toNat - 0x61)
  else if 'A' ≤ c && c ≤ 'Z' then some (c.toNat - 0x41)
  else if c.isDigit then some (c.toNat - 0x16)
  else none

/-- The digit from which on a number continues, by the place of the digit. -/
def threshold (place bias : Nat) : Nat :=
  let wide := 36 * (place + 1)
  if wide < bias + 1 then 1 else if bias + 26 < wide then 26 else wide - bias

/-- Divide by 35 until at most 455 is left, counting 36 for each division. -/
def reduce : Nat → Nat → Nat → Nat × Nat
  | 0, delta, count => (delta, count)
  | fuel + 1, delta, count =>
      if 455 < delta then reduce fuel (delta / 35) (count + 36) else (delta, count)

/-- The bias after a number was used. -/
def adapt (delta : Nat) (first : Bool) (length : Nat) : Nat :=
  let damped := if first then delta / 700 else delta / 2
  let spread := damped + damped / length
  let (left, count) := reduce spread spread 0
  count + 36 * left / (left + 38)

/-! ## Encoding -/

/-- A number of variable length; `fuel` bounds the number of digits. -/
def encodeNumber (bias : Nat) : Nat → Nat → Nat → List Char
  | 0, _, _ => []
  | fuel + 1, place, number =>
      let limit := threshold place bias
      if number < limit then [digitChar number]
      else
        digitChar (limit + (number - limit) % (36 - limit)) ::
          encodeNumber bias fuel (place + 1) ((number - limit) / (36 - limit))

/-- What is kept between insertions: the number so far, the bias, the count of
characters that are placed, and the text. -/
structure Encoder where
  delta : Nat
  bias : Nat
  placed : Nat
  output : List Char

/-- Pass one character of the label while `code` is being inserted. -/
def Encoder.pass (basic code : Nat) (state : Encoder) (c : Char) : Encoder :=
  if c.toNat < code then { state with delta := state.delta + 1 }
  else if c.toNat = code then
    { delta := 0
      bias := adapt state.delta (state.placed == basic) (state.placed + 1)
      placed := state.placed + 1
      output := state.output ++ encodeNumber state.bias (state.delta + 1) 0 state.delta }
  else state

/-- Insert the codes in increasing order; `next` is the least code that is still
possible. -/
def insertCodes (label : List Char) (basic : Nat) : List Nat → Nat → Encoder → Encoder
  | [], _, state => state
  | code :: codes, next, state =>
      let moved := { state with delta := state.delta + (code - next) * (state.placed + 1) }
      let passed := label.foldl (Encoder.pass basic code) moved
      insertCodes label basic codes (code + 1) { passed with delta := passed.delta + 1 }

/-- Insert a number into an increasing list, once. -/
def insertSorted (n : Nat) : List Nat → List Nat
  | [] => [n]
  | m :: rest =>
      if n < m then n :: m :: rest else if n = m then m :: rest else m :: insertSorted n rest

/-- The ASCII form of a label, without the mark in front of it. -/
def encode (label : List Char) : List Char :=
  let basic := label.filter fun c => c.toNat < 0x80
  let codes := (label.filter fun c => 0x80 ≤ c.toNat).foldr (fun c => insertSorted c.toNat) []
  let final := insertCodes label basic.length codes 0x80 ⟨0, 72, basic.length, []⟩
  if basic.isEmpty then final.output else basic ++ '-' :: final.output

/-! ## Decoding -/

/-- Read a number of variable length: its value and the text after it. -/
def decodeNumber (bias : Nat) : Nat → Nat → Nat → List Char → Option (Nat × List Char)
  | _, _, _, [] => none
  | place, weight, value, c :: rest =>
      match digitValue? c with
      | none => none
      | some digit =>
          let limit := threshold place bias
          let total := value + digit * weight
          if digit < limit then some (total, rest)
          else decodeNumber bias (place + 1) (weight * (36 - limit)) total rest

/-- Insert characters as the numbers tell; `fuel` bounds their number, `code` and
`place` are those of the last insertion. -/
def insertAll :
    Nat → Bool → Nat → Nat → Nat → List Char → List Char → Option (List Char)
  | 0, _, _, _, _, _, text => some text
  | _ + 1, _, _, _, _, [], text => some text
  | fuel + 1, first, code, place, bias, numbers, text =>
      match decodeNumber bias 0 1 0 numbers with
      | none => none
      | some (delta, rest) =>
          let moved := place + delta
          let nextCode := code + moved / (text.length + 1)
          if 0x10FFFF < nextCode then none
          else
            let nextPlace := moved % (text.length + 1)
            let inserted := text.take nextPlace ++ Char.ofNat nextCode :: text.drop nextPlace
            insertAll fuel false nextCode (nextPlace + 1) (adapt delta first inserted.length)
              rest inserted

/-- The label of an ASCII form, without the mark in front of it. -/
def decode (label : List Char) : Option (List Char) :=
  if label.any fun c => 0x80 ≤ c.toNat then none
  else
    let tail := (label.reverse.takeWhile (· != '-')).reverse
    let (basic, numbers) :=
      if label.contains '-' then (label.take (label.length - tail.length - 1), tail)
      else ([], label)
    insertAll (numbers.length + 1) true 0x80 0 72 numbers basic

end Typeset.Url.Punycode
