/-!
# Decoding UTF-8

Bytes are read one at a time.  Between characters any lead byte may come; inside
a character the next byte must lie between two bounds, which are narrower after
some lead bytes.  A fault names the bytes of the character that failed.
-/

namespace Typeset.Text.Utf8

/-- Why bytes are not UTF-8. -/
inductive Reason where
  | badStart
  | badContinuation
  | truncated
  deriving DecidableEq, Repr

/-- The bytes from `first` to `last` cannot be read; `byte` is the one at
`first`. -/
structure Fault where
  byte : UInt8
  first : Nat
  last : Nat
  reason : Reason
  deriving DecidableEq, Repr

/-- A character that is not complete: its lead byte and position, the bits read
so far, the number of bytes to come and the bounds of the next one. -/
structure Partial where
  lead : UInt8
  start : Nat
  bits : Nat
  missing : Nat
  low : Nat
  high : Nat

/-- What a lead byte announces: the bits it carries, the number of bytes to come
and the bounds of the first of them. -/
def announce? (lead : Nat) : Option (Nat × Nat × Nat × Nat) :=
  if 0xC2 ≤ lead && lead ≤ 0xDF then some (lead - 0xC0, 1, 0x80, 0xBF)
  else if lead == 0xE0 then some (0, 2, 0xA0, 0xBF)
  else if lead == 0xED then some (0xD, 2, 0x80, 0x9F)
  else if 0xE1 ≤ lead && lead ≤ 0xEF then some (lead - 0xE0, 2, 0x80, 0xBF)
  else if lead == 0xF0 then some (0, 3, 0x90, 0xBF)
  else if 0xF1 ≤ lead && lead ≤ 0xF3 then some (lead - 0xF0, 3, 0x80, 0xBF)
  else if lead == 0xF4 then some (4, 3, 0x80, 0x8F)
  else none

/-- Read bytes from position `pos` on, inside a character or between two. -/
def decodeFrom (pos : Nat) (inside : Option Partial) :
    List UInt8 → Except Fault (List Char)
  | [] =>
      match inside with
      | none => .ok []
      | some part => .error ⟨part.lead, part.start, pos - 1, .truncated⟩
  | byte :: rest =>
      let n := byte.toNat
      match inside with
      | none =>
          if n < 0x80 then do
            let chars ← decodeFrom (pos + 1) none rest
            return Char.ofNat n :: chars
          else
            match announce? n with
            | none => .error ⟨byte, pos, pos, .badStart⟩
            | some (bits, missing, low, high) =>
                decodeFrom (pos + 1) (some ⟨byte, pos, bits, missing, low, high⟩) rest
      | some part =>
          if n < part.low || part.high < n then
            .error ⟨part.lead, part.start, pos - 1, .badContinuation⟩
          else
            let bits := part.bits * 64 + (n - 0x80)
            if part.missing ≤ 1 then do
              let chars ← decodeFrom (pos + 1) none rest
              return Char.ofNat bits :: chars
            else
              decodeFrom (pos + 1)
                (some { part with bits, missing := part.missing - 1, low := 0x80, high := 0xBF })
                rest

/-- Read a whole text. -/
def decode (bytes : List UInt8) : Except Fault (List Char) :=
  decodeFrom 0 none bytes

end Typeset.Text.Utf8

namespace Typeset.Text

/-- Every line ending becomes a line feed. -/
def unifyLines : List Char → List Char
  | [] => []
  | '\r' :: '\n' :: rest => '\n' :: unifyLines rest
  | '\r' :: rest => '\n' :: unifyLines rest
  | c :: rest => c :: unifyLines rest

end Typeset.Text
