import Typeset.Markdown.Target
import Typeset.Text.CaseFold
import Typeset.Url.Address

/-!
# Link definitions

A definition names the target of links: a label between square brackets, a
colon, an address and perhaps a title.  It may be spread over several lines, but
nothing else may stand on its last line.  A title that is followed by something
else belongs to the next paragraph if it stands on a line of its own.

Labels are compared by their keys, which do not show white space or case.
-/

namespace Typeset.Markdown

open Typeset.Text

/-- A named target. -/
structure Definition where
  key : List Char
  target : Target

/-- The key of a label: trimmed, with single spaces and without case. -/
def labelKey (label : List Char) : List Char :=
  (collapse label).flatMap foldCase

/-- The target that a label names: that of the first definition with its key. -/
def findTarget? (definitions : List Definition) (label : List Char) : Option Target :=
  let key := labelKey label
  (definitions.find? fun definition => definition.key == key).map Definition.target

namespace Definition

/-- The text up to a closing square bracket. -/
def label? (reversed : List Char) : List Char → Option (List Char × List Char)
  | [] => none
  | '\\' :: c :: rest => label? (c :: '\\' :: reversed) rest
  | c :: rest =>
      if c == ']' then some (reversed.reverse, rest)
      else if c == '[' then none
      else label? (c :: reversed) rest

/-- The lines after this one, if nothing but blanks is left of it. -/
def lineEnd? (text : List Char) : Option (List Char) :=
  match text.dropWhile Text.isBlank with
  | [] => some []
  | c :: rest => if c == '\n' then some rest else none

/-- The title after an address: `after` is the rest of the address's line, and
`following` holds the other lines. -/
def titled? (address after following : List Char) : Option (Target × List Char) :=
  let untitled := (lineEnd? after).map fun _ => (⟨address, []⟩, following)
  let text := after ++ following
  let spaced := text.head?.any isGap
  match if after.isEmpty || !spaced then none else title? (text.dropWhile isGap) with
  | none => untitled
  | some (title, rest) =>
      match lineEnd? rest with
      | some others => some (⟨address, title⟩, others)
      | none => if title.isEmpty then none else untitled

/-- The target after a label: its address and title, and the lines after it. -/
def target? (text : List Char) : Option (Target × List Char) :=
  let start := text.dropWhile isGap
  let line := start.takeWhile (· != '\n')
  let following := start.drop (line.length + 1)
  let whole := if line.length < start.length then line ++ ['\n'] else line
  match address? whole with
  | none => none
  | some (written, after) =>
      let address := Url.normalize written
      if Url.isSafe address then titled? address after following else none

/-- The definition at the start of a text, and the lines after it. -/
def read? (text : List Char) : Option (Definition × List Char) :=
  match text with
  | '[' :: rest =>
      match label? [] rest with
      | some (label, ':' :: after) =>
          let key := labelKey label
          if key.isEmpty then none
          else (target? after).map fun (target, others) => (⟨key, target⟩, others)
      | _ => none
  | _ => none

end Definition

end Typeset.Markdown
