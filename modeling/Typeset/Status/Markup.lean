import Typeset.Number.Basic
import Typeset.Status.Effect

/-!
# Console markup

A message may hold style tags between square brackets.  On a plain terminal they
are removed.  An opening tag starts with a lower-case letter or one of `#`, `/`
and `@`; a closing tag starts with a slash and must close an open one.  A
backslash before a tag makes it text, and two of them stand for one.  In the text
between tags, names of pictures are replaced.

The meaning of a tag is known here if it has plain words only.  Tags with parentheses
ask for colours by their numbers, and those with an at sign for the handling of events,
for which there are languages of their own; they, and tags with letters of other
alphabets, are left to the console.
-/

namespace Typeset.Status

open Typeset.Text

/-- Why a message could not be shown. -/
inductive MarkupError where
  | notOpened (tag : List Char) (position : Nat)
  | nothingOpen (position : Nat)

/-- The wording of an error. -/
def MarkupError.message : MarkupError → String
  | notOpened tag position =>
      "closing tag '[" ++ String.ofList tag ++ "]' at position " ++ Number.intText position ++
        " doesn't match any open tag"
  | nothingOpen position =>
      "closing tag '[/]' at position " ++ Number.intText position ++ " has nothing to close"

namespace Markup

/-- A part of a message. -/
inductive Token where
  | text (chars : List Char)
  /-- The content of a tag, and its position in the message. -/
  | tag (content : List Char) (position : Nat)

/-- The content of the tag at the start of a text, after its bracket. -/
def tagContent? (rest : List Char) : Option (List Char) :=
  match rest with
  | [] => none
  | first :: _ =>
      let content := rest.takeWhile fun c => c != '[' && c != ']'
      let starts := ('a' ≤ first && first ≤ 'z') || first == '#' || first == '/' || first == '@'
      if starts && (rest.drop content.length).head? == some ']' then some content else none

/-- Replace a backslash before an opening bracket. -/
def plain : List Char → List Char
  | '\\' :: '[' :: rest => '[' :: plain rest
  | c :: rest => c :: plain rest
  | [] => []

/-- Cut a message into texts and tags.  `slashes` counts the backslashes just
read, `reversed` holds the text before them, and `position` is the place in the
message. -/
def scan : Nat → Nat → Nat → List Char → List Char → List Token
  | 0, _, _, _, _ => []
  | _ + 1, _, slashes, reversed, [] =>
      [.text (plain (reversed.reverse ++ List.replicate slashes '\\'))]
  | fuel + 1, position, slashes, reversed, c :: rest =>
      if c == '\\' then scan fuel (position + 1) (slashes + 1) reversed rest
      else
        match if c == '[' then tagContent? rest else none with
        | none =>
            scan fuel (position + 1) 0 (c :: (List.replicate slashes '\\' ++ reversed)) rest
        | some content =>
            let before := Token.text (plain reversed.reverse)
            let halved := Token.text (List.replicate (slashes / 2) '\\')
            let after := rest.drop (content.length + 1)
            let next := position + content.length + 2
            if slashes % 2 == 1 then
              before :: halved :: Token.text (plain ('[' :: content ++ [']'])) ::
                scan fuel next 0 [] after
            else
              before :: halved :: Token.tag content position :: scan fuel next 0 [] after

/-- The style that a tag asks for: the part before an equals sign, in normal form. -/
def tagStyle (content : List Char) : List Char :=
  normalStyle (content.takeWhile (· != '='))

/-- The text of a message without its tags; `opened` holds the styles of the open
tags, the last one first. -/
def strip (opened : List (List Char)) : List Token → Except MarkupError (List Char)
  | [] => .ok []
  | .text chars :: rest => (strip opened rest).map (Emoji.replace chars ++ ·)
  | .tag content position :: rest =>
      match content with
      | '/' :: _ =>
          let closing := content.drop 1
          if (closing.takeWhile (· != '=')).all separatesWords then
            match opened with
            | [] => .error (.nothingOpen position)
            | _ :: others => strip others rest
          else if opened.contains (tagStyle closing) then
            strip (opened.erase (tagStyle closing)) rest
          else .error (.notOpened content position)
      | _ => strip (tagStyle content :: opened) rest

/-- Whether a terminal is not sent a character. -/
def isControl (c : Char) : Bool :=
  c.toNat == 7 || c.toNat == 8 || (11 ≤ c.toNat && c.toNat ≤ 13)

/-- The parts of a message. -/
def tokens (message : String) : List Token :=
  scan (message.toList.length + 1) 0 0 [] message.toList

/-- Whether a character may stand in a tag whose meaning is known here. -/
def isReadable (c : Char) : Bool :=
  c.toNat < 0x80 && c != '(' && c != '@'

/-- Whether the meaning of a part is known here: a tag must have plain words only. -/
def Token.isRead : Token → Bool
  | text _ => true
  | tag content _ => content.all isReadable

end Markup

/-- A message as a plain terminal shows it. -/
def shown (message : String) : Except MarkupError String :=
  (Markup.strip [] (Markup.tokens message)).map fun text =>
    String.ofList (text.filter fun c => !Markup.isControl c)

/-- A message as a plain terminal shows it, if the meaning of all its tags is known here. -/
def reading? (message : String) : Option (Except MarkupError String) :=
  if (Markup.tokens message).all Markup.Token.isRead then some (shown message) else none

end Typeset.Status
