import Typeset.Text.Entity

/-!
# Percent encoding

In a written address every character that is not allowed there is replaced by
the bytes of its UTF-8 form, each as a percent sign and two hexadecimal digits.
For display the sequences are turned back into characters, except for those of
characters with a meaning in addresses.
-/

namespace Typeset.Url

open Typeset.Text

/-- A hexadecimal digit in upper case. -/
def upperHexDigit (n : Nat) : Char :=
  if n < 10 then Char.ofNat (0x30 + n) else Char.ofNat (0x37 + n)

/-- One byte as a percent sequence. -/
def percentByte (byte : Nat) : List Char :=
  ['%', upperHexDigit (byte / 16), upperHexDigit (byte % 16)]

/-- The bytes of a character's UTF-8 form. -/
def utf8Bytes (c : Char) : List Nat :=
  let n := c.toNat
  if n < 0x80 then [n]
  else if n < 0x800 then [0xC0 + n / 0x40, 0x80 + n % 0x40]
  else if n < 0x10000 then [0xE0 + n / 0x1000, 0x80 + n / 0x40 % 0x40, 0x80 + n % 0x40]
  else
    [0xF0 + n / 0x40000, 0x80 + n / 0x1000 % 0x40, 0x80 + n / 0x40 % 0x40, 0x80 + n % 0x40]

/-- The punctuation that is kept in addresses. -/
def addressPunctuation : List Char :=
  ";/?:@&=+$,-_.!~*'()#".toList

/-- Characters that stand for themselves in addresses. -/
def isAddressChar (c : Char) : Bool :=
  c.isAlphanum || addressPunctuation.contains c

/-- Replace the characters that are not allowed.  Percent sequences that are
already there are kept. -/
def encode : List Char → List Char
  | [] => []
  | '%' :: a :: b :: rest =>
      if (hexDigit? a).isSome && (hexDigit? b).isSome then '%' :: a :: b :: encode rest
      else percentByte 0x25 ++ encode (a :: b :: rest)
  | c :: rest =>
      if isAddressChar c then c :: encode rest
      else (utf8Bytes c).flatMap percentByte ++ encode rest

/-! ## Decoding for display -/

/-- The characters whose percent sequences are kept for display. -/
def keptEncoded : List Char :=
  ";/?:@&=+$,#%".toList

/-- The character that stands for bytes that are not UTF-8. -/
def replacement : Char :=
  Char.ofNat 0xFFFD

/-- Whether a byte continues a character. -/
def isContinuation (byte : Nat) : Bool :=
  0x80 ≤ byte && byte ≤ 0xBF

/-- The character of a code that was read from `count` bytes; codes that need
fewer bytes, surrogates and codes beyond the last character are replaced byte by
byte. -/
def codeOrReplacements (least code count : Nat) : List Char :=
  if code < least || (0xD800 ≤ code && code ≤ 0xDFFF) || 0x10FFFF < code then
    List.replicate count replacement
  else
    [Char.ofNat code]

/-- The characters of the bytes of adjacent percent sequences; `fuel` bounds the
number of bytes. -/
def decodeBytes : Nat → List Nat → List Char
  | 0, _ => []
  | _ + 1, [] => []
  | fuel + 1, b1 :: rest =>
      if b1 < 0x80 then
        let c := Char.ofNat b1
        (if keptEncoded.contains c then percentByte b1 else [c]) ++ decodeBytes fuel rest
      else
        match rest with
        | b2 :: b3 :: b4 :: rest4 =>
            if 0xC0 ≤ b1 && b1 ≤ 0xDF && isContinuation b2 then
              two fuel b1 b2 (b3 :: b4 :: rest4)
            else if 0xE0 ≤ b1 && b1 ≤ 0xEF && isContinuation b2 && isContinuation b3 then
              three fuel b1 b2 b3 (b4 :: rest4)
            else if 0xF0 ≤ b1 && b1 ≤ 0xF7 && isContinuation b2 && isContinuation b3 &&
                isContinuation b4 then
              let code :=
                (b1 - 0xF0) * 0x40000 + (b2 - 0x80) * 0x1000 + (b3 - 0x80) * 0x40 + (b4 - 0x80)
              codeOrReplacements 0x10000 code 4 ++ decodeBytes fuel rest4
            else replacement :: decodeBytes fuel rest
        | [b2, b3] =>
            if 0xC0 ≤ b1 && b1 ≤ 0xDF && isContinuation b2 then two fuel b1 b2 [b3]
            else if 0xE0 ≤ b1 && b1 ≤ 0xEF && isContinuation b2 && isContinuation b3 then
              three fuel b1 b2 b3 []
            else replacement :: decodeBytes fuel rest
        | [b2] =>
            if 0xC0 ≤ b1 && b1 ≤ 0xDF && isContinuation b2 then two fuel b1 b2 []
            else replacement :: decodeBytes fuel rest
        | [] => [replacement]
where
  /-- A character of two bytes. -/
  two (fuel b1 b2 : Nat) (rest : List Nat) : List Char :=
    codeOrReplacements 0x80 ((b1 - 0xC0) * 0x40 + (b2 - 0x80)) 2 ++ decodeBytes fuel rest
  /-- A character of three bytes. -/
  three (fuel b1 b2 b3 : Nat) (rest : List Nat) : List Char :=
    codeOrReplacements 0x800 ((b1 - 0xE0) * 0x1000 + (b2 - 0x80) * 0x40 + (b3 - 0x80)) 3 ++
      decodeBytes fuel rest

/-- Decode percent sequences.  `pending` holds, in reverse, the bytes of the
sequences just read. -/
def decodeFrom (pending : List Nat) : List Char → List Char
  | '%' :: a :: b :: rest =>
      match hexDigit? a, hexDigit? b with
      | some high, some low => decodeFrom ((high * 16 + low) :: pending) rest
      | _, _ => decodeBytes pending.length pending.reverse ++ '%' :: decodeFrom [] (a :: b :: rest)
  | c :: rest => decodeBytes pending.length pending.reverse ++ c :: decodeFrom [] rest
  | [] => decodeBytes pending.length pending.reverse

/-- An address for display. -/
def decode (text : List Char) : List Char :=
  decodeFrom [] text

end Typeset.Url
