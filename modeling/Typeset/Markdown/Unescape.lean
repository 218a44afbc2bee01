import Typeset.Text.Entity
import Typeset.Text.Punctuation

/-!
# Escapes and references in addresses and titles

Inside the address or the title of a link a backslash before a punctuation
character is dropped and character references are replaced.  Anything else is
kept as it is written.
-/

namespace Typeset.Markdown

open Typeset.Text

/-- Replace escapes and references; `fuel` bounds the number of characters. -/
def unescapeFrom : Nat → List Char → List Char
  | 0, text => text
  | _ + 1, [] => []
  | fuel + 1, '\\' :: c :: rest =>
      if isAsciiPunctuation c then c :: unescapeFrom fuel rest
      else '\\' :: unescapeFrom fuel (c :: rest)
  | fuel + 1, '&' :: rest =>
      match reference? rest with
      | some (chars, after) => chars ++ unescapeFrom fuel after
      | none => '&' :: unescapeFrom fuel rest
  | fuel + 1, c :: rest => c :: unescapeFrom fuel rest

/-- Replace escapes and references. -/
def unescape (text : List Char) : List Char :=
  unescapeFrom text.length text

end Typeset.Markdown
