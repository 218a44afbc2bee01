import Typeset.Text.Printable

/-!
# Quoted texts

Messages show a text between quotes.  Single quotes are used unless the text
has a single quote and no double quote.  The quote in use and the backslash
are escaped with a backslash; characters that are not printable are written by
name or by code point.
-/

namespace Typeset.Text.Quoted

/-- A hexadecimal digit in lower case. -/
def hexDigit (n : Nat) : Char :=
  if n < 10 then Char.ofNat (0x30 + n) else Char.ofNat (0x57 + n)

/-- The `count` low hexadecimal digits of a number. -/
def hex (count n : Nat) : List Char :=
  match count with
  | 0 => []
  | count + 1 => hex count (n / 16) ++ [hexDigit (n % 16)]

/-- A character that is not printable, written by its code point. -/
def escapeCode (c : Char) : List Char :=
  let n := c.toNat
  if n < 0x100 then '\\' :: 'x' :: hex 2 n
  else if n < 0x10000 then '\\' :: 'u' :: hex 4 n
  else '\\' :: 'U' :: hex 8 n

/-- One character between quotes of the given kind. -/
def encodeChar (quote c : Char) : List Char :=
  if c == quote || c == '\\' then ['\\', c]
  else if c == '\n' then ['\\', 'n']
  else if c == '\r' then ['\\', 'r']
  else if c == '\t' then ['\\', 't']
  else if isPrintable c then [c]
  else escapeCode c

/-- The quote that surrounds a text. -/
def quoteFor (text : List Char) : Char :=
  if text.contains '\x27' && !text.contains '\x22' then '\x22' else '\x27'

/-- A text between quotes. -/
def encode (text : List Char) : List Char :=
  let quote := quoteFor text
  quote :: (text.flatMap (encodeChar quote) ++ [quote])

/-- A string between quotes. -/
def quoted (text : String) : String :=
  String.ofList (encode text.toList)

end Typeset.Text.Quoted
