import Std.Data.HashMap
import Typeset.Status.EmojiTable
import Typeset.Text.Entity

/-!
# Pictures in messages

A message may call a picture by its name between two colons, as in `:rocket:`.
The name may end in `-emoji` or `-text`, which asks for the coloured or the plain
form.  A name that is not known is text.
-/

namespace Typeset.Status

open Typeset.Text

/-- The small form of a letter of ASCII or Latin-1.  The signs for kelvin and
ångström count as the letters that they look like. -/
def lowerLetter (c : Char) : Char :=
  if c.isUpper || ('À' ≤ c && c ≤ 'Þ' && c != '×') then Char.ofNat (c.toNat + 32)
  else if c == '\u212a' then 'k'
  else if c == '\u212b' then 'å'
  else c

namespace Emoji

/-- The texts that the names stand for. -/
def pictures : Std.HashMap String String :=
  Std.HashMap.ofList ((tableWords emojiTable.toList).map readEntry)

/-- The picture of a name, without regard to case. -/
def find? (name : List Char) : Option (List Char) :=
  pictures[String.ofList (name.map lowerLetter)]?.map String.toList

/-- A form of a picture that a name may ask for. -/
inductive Form where
  | colored
  | plain

/-- How a name asks for a form. -/
def Form.suffix : Form → List Char
  | colored => "-emoji".toList
  | plain => "-text".toList

/-- The character after a picture that selects a form. -/
def Form.selector : Form → Char
  | colored => '\ufe0f'
  | plain => '\ufe0e'

/-- A name without the form that it asks for, and that form. -/
def splitForm (name : List Char) : List Char × Option Form :=
  match [Form.colored, Form.plain].find? fun form => form.suffix.isSuffixOf name with
  | some form => (name.take (name.length - form.suffix.length), some form)
  | none => (name, none)

/-- What stands for a name between colons: the picture, or the name as written. -/
def written (name : List Char) : List Char :=
  let (bare, form) := splitForm name
  let picture := (find? bare).map fun picture => picture ++ (form.map Form.selector).toList
  picture.getD (':' :: name ++ [':'])

/-- Replace the names between colons.  The first argument bounds the number of
characters that are read. -/
def replaceUpTo : Nat → List Char → List Char
  | 0, text => text
  | _ + 1, [] => []
  | fuel + 1, c :: rest =>
      let name := rest.takeWhile fun c => c != ':' && !separatesWords c
      let after := rest.drop name.length
      if c == ':' && after.head? == some ':' then
        written name ++ replaceUpTo fuel (after.drop 1)
      else
        c :: replaceUpTo fuel rest

/-- A text with the names between colons replaced. -/
def replace (text : List Char) : List Char :=
  replaceUpTo text.length text

end Emoji

end Typeset.Status
