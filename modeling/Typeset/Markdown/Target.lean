import Typeset.Markdown.Unescape
import Typeset.Text.Blank

/-!
# Link targets

A link leads to an address and may have a title.  An address is written between
angle brackets, or bare and with balanced parentheses.  A title is written
between quotation marks or parentheses.  A backslash protects the character
after it from all of these rules.
-/

namespace Typeset.Markdown

open Typeset.Text

/-- Where a link leads. -/
structure Target where
  address : List Char
  title : List Char

/-! ## Addresses -/

/-- The text up to a closing angle bracket on the same line. -/
def bracketed? (reversed : List Char) : List Char → Option (List Char × List Char)
  | [] => none
  | '\\' :: c :: rest => bracketed? (c :: '\\' :: reversed) rest
  | c :: rest =>
      if c == '>' then some (reversed.reverse, rest)
      else if c == '<' || c == '\n' then none
      else bracketed? (c :: reversed) rest

/-- How deep the parentheses of an address may be nested. -/
def nestedParentheses : Nat :=
  32

/-- The text up to a space, a control or a parenthesis that was not opened. -/
def bare? (opened : Nat) (reversed : List Char) : List Char → Option (List Char × List Char)
  | [] => stop []
  | '\\' :: c :: rest =>
      if c == ' ' then stop ('\\' :: c :: rest)
      else bare? opened (c :: '\\' :: reversed) rest
  | c :: rest =>
      if c.toNat ≤ 0x20 || c.toNat == 0x7F then stop (c :: rest)
      else if c == '(' then
        if opened < nestedParentheses then bare? (opened + 1) (c :: reversed) rest else none
      else if c == ')' then
        if opened = 0 then stop (c :: rest) else bare? (opened - 1) (c :: reversed) rest
      else
        bare? opened (c :: reversed) rest
where
  /-- The address must not be empty, nor end inside parentheses. -/
  stop (rest : List Char) : Option (List Char × List Char) :=
    if reversed.isEmpty || opened ≠ 0 then none else some (reversed.reverse, rest)

/-- The address at the start of a text, with its escapes and references
replaced, and the text after it. -/
def address? (text : List Char) : Option (List Char × List Char) :=
  let found :=
    match text with
    | '<' :: rest => bracketed? [] rest
    | _ => bare? 0 [] text
  found.map fun (written, rest) => (unescape written, rest)

/-! ## Titles -/

/-- The text up to a closing sign. -/
def closed? (closing : Char) (reversed : List Char) :
    List Char → Option (List Char × List Char)
  | [] => none
  | '\\' :: c :: rest => closed? closing (c :: '\\' :: reversed) rest
  | c :: rest =>
      if c == closing then some (reversed.reverse, rest)
      else if c == '(' && closing == ')' then none
      else closed? closing (c :: reversed) rest

/-- The title at the start of a text, with its escapes and references replaced,
and the text after it. -/
def title? (text : List Char) : Option (List Char × List Char) :=
  match text with
  | [] => none
  | sign :: rest =>
      if sign == '\x22' || sign == '\x27' || sign == '(' then
        (closed? (if sign == '(' then ')' else sign) [] rest).map fun (written, after) =>
          (unescape written, after)
      else
        none

/-- Blanks and line feeds, which may separate the parts of a target. -/
def isGap (c : Char) : Bool :=
  Text.isBlank c || c == '\n'

end Typeset.Markdown
