import Typeset.Markdown.Leaf
import Typeset.Text.Entity
import Typeset.Text.Punctuation
import Typeset.Url.Address

/-!
# Spans without nesting

Line breaks, escapes, addresses between angle brackets, and character references
are recognised by the text from their first character on, without regard to what
surrounds them.
-/

namespace Typeset.Markdown

open Typeset.Text

/-- What a stretch of running text is. -/
inductive Span where
  /-- Text that a line feed may trim. -/
  | plain (text : List Char)
  | lineFeed
  | inline (inline : Inline)

/-- Whether a character may start something other than plain text. -/
def isSpecial (c : Char) : Bool :=
  c == '\n' || c == '!' || c == '#' || c == '$' || c == '%' || c == '&' || c == '*' ||
    c == '+' || c == '-' || c == ':' || c == '<' || c == '=' || c == '>' || c == '@' ||
    c == '[' || c == '\\' || c == ']' || c == '^' || c == '_' || c == backtick ||
    c == '\x7b' || c == '\x7d' || c == '~'

namespace Span

/-- A text that no line feed trims. -/
def literal (text : List Char) : Span :=
  .inline (.text (String.ofList text))

/-- A line feed, which takes the margin of the next line. -/
def lineFeed? (rest : List Char) : Span × Nat :=
  (.lineFeed, 1 + (rest.takeWhile Text.isBlank).length)

/-- A backslash: it makes a line feed a hard break and a punctuation character
plain. -/
def escape? : List Char → Option (Span × Nat)
  | [] => none
  | c :: rest =>
      if c == '\n' then some (.inline .hardBreak, 2 + (rest.takeWhile Text.isBlank).length)
      else some (literal (if isAsciiPunctuation c then [c] else ['\\', c]), 2)

/-! ## Addresses between angle brackets -/

/-- Whether a text starts with a scheme of 2 to 32 characters and a colon, and
holds neither white space nor angle brackets. -/
def isAbsolute (text : List Char) : Bool :=
  let scheme := text.takeWhile fun c => c.isAlphanum || c == '+' || c == '.' || c == '-'
  match text.drop scheme.length with
  | ':' :: rest =>
      scheme.head?.any Char.isAlpha && 2 ≤ scheme.length && scheme.length ≤ 32 &&
        rest.all fun c => 0x20 < c.toNat && c != '<' && c != '>'
  | _ => false

/-- Whether a text is a label of a host name. -/
def isHostLabel (text : List Char) : Bool :=
  text.head?.any Char.isAlphanum && text.getLast?.any Char.isAlphanum && text.length ≤ 63 &&
    text.all fun c => c.isAlphanum || c == '-'

/-- Whether a character may stand in the local part of a mail address. -/
def isMailboxChar (c : Char) : Bool :=
  c.isAlphanum || (isAsciiPunctuation c &&
    !("\"(),:;<>@[\\]".toList.contains c))

/-- Whether a text is a mail address. -/
def isMailAddress (text : List Char) : Bool :=
  let mailbox := text.takeWhile (· != '@')
  !mailbox.isEmpty && mailbox.all isMailboxChar && mailbox.length < text.length &&
    (splitAt '.' (text.drop (mailbox.length + 1))).all isHostLabel

/-- The address that a text between angle brackets stands for.  One line feed at
its end does not count. -/
def addressOf? (text : List Char) : Option (List Char) :=
  let line := if text.getLast? == some '\n' then text.dropLast else text
  if isAbsolute line then some text
  else if isMailAddress line then some ("mailto:".toList ++ text)
  else none

/-- A link that consists of its address. -/
def autolink? (rest : List Char) : Option (Span × Nat) :=
  let text := rest.takeWhile fun c => c != '<' && c != '>'
  match rest.drop text.length with
  | '>' :: _ =>
      match addressOf? text with
      | none => none
      | some written =>
          let address := Url.normalize written
          if Url.isSafe address then
            let shown := Inline.text (String.ofList (Url.display text))
            some (.inline (.link (String.ofList address) "" [shown]), text.length + 2)
          else
            none
  | _ => none

/-! ## Character references -/

/-- The character that takes the place of one that is not allowed. -/
def replacement : Char :=
  Char.ofNat 0xFFFD

/-- A character reference after its ampersand. -/
def reference? (rest : List Char) : Option (Span × Nat) :=
  match rest with
  | '#' :: number =>
      (numericReference? 7 6 number).map fun (code, after) =>
        (literal [if isTextCode code then Char.ofNat code else replacement],
          number.length - after.length + 2)
  | _ =>
      match nameReference? rest with
      | some (name, _) => (entity? name).map fun chars => (literal chars, name.length + 2)
      | none => none

/-! ## All spans -/

/-- The span at the start of a text and its length.  Nothing is found at
backticks, emphasis signs and brackets, nor where a special character has no
meaning. -/
def find? (text : List Char) : Option (Span × Nat) :=
  match text with
  | [] => none
  | c :: rest =>
      if !isSpecial c then
        let plain := text.takeWhile fun c => !isSpecial c
        some (.plain plain, plain.length)
      else if c == '\n' then some (lineFeed? rest)
      else if c == '\\' then escape? rest
      else if c == '<' then autolink? rest
      else if c == '&' then reference? rest
      else none

end Span

end Typeset.Markdown
