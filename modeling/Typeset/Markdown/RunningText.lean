import Typeset.Markdown.Emphasis
import Typeset.Markdown.Link

/-!
# Running text

Running text is cut into pieces from left to right: spans, links, images, and
runs of emphasis signs; everything else is text.  The emphasis is resolved when
all pieces are known.  The label of a link is read in its place, the label of an
image as a text of its own.
-/

namespace Typeset.Markdown

open Typeset.Text

/-- The piece for the text that was read since the last piece; `reversed` holds
its characters. -/
def flush (reversed : List Char) : List Piece :=
  if reversed.isEmpty then [] else [.inline (.text (String.ofList reversed.reverse))]

/-- The pieces for a line feed after some text.  Two spaces before it make a hard
break; all spaces are dropped. -/
def breakLine (reversed : List Char) : List Piece :=
  let spaces := (reversed.takeWhile (· == ' ')).length
  flush (reversed.drop spaces) ++ [.inline (if 2 ≤ spaces then .hardBreak else .softBreak)]

/-- The run of emphasis signs at a place.  A single tilde is none. -/
def run? (cursor : Cursor) : Option Run :=
  match cursor.rest with
  | [] => none
  | c :: _ =>
      let length := (cursor.rest.takeWhile (· == c)).length
      if c == '*' || c == '_' || (c == '~' && 2 ≤ length) then
        some (Run.between c length cursor.before ((cursor.rest.drop length).head?.getD ' '))
      else
        none

/-- How to read what is inside a piece: the label of an image, and the label of a
link in its place. -/
structure Labels where
  image : List Char → List Inline
  link : Cursor → Lookahead (List Inline)

/-- The link or image at a place, and the place after it. -/
def linked? (labels : Labels) (skip : Skip) (definitions : List Definition)
    (cursor : Cursor) : Lookahead (Option (Inline × Cursor)) := do
  match cursor.rest with
  | '[' :: _ =>
      let some found ← matchLink? skip definitions (cursor.advance 1) | return none
      let children ← labels.link { found.inner with rest := found.label }
      let target := found.target
      return some (.link (String.ofList target.address) (String.ofList target.title) children,
        found.after)
  | '!' :: '[' :: _ =>
      let some found ← matchImage? skip definitions (cursor.advance 2) | return none
      let target := found.target
      return some (.image (String.ofList target.address) (String.ofList target.title)
        (String.ofList found.label) (labels.image found.label), found.after)
  | _ => return none

/-- The pieces of a text from a place on; `reversed` holds the characters of the
text since the last piece.  The first argument bounds the number of spans. -/
def pieces (labels : Labels) (skip : Skip) (definitions : List Definition) :
    Nat → List Char → Cursor → Lookahead (List Piece)
  | 0, reversed, _ => return flush reversed
  | fuel + 1, reversed, cursor => do
      match ← spanAt? cursor with
      | some (.plain text, length) =>
          pieces labels skip definitions fuel (text.reverse ++ reversed) (cursor.advance length)
      | some (.lineFeed, length) =>
          let others ← pieces labels skip definitions fuel [] (cursor.advance length)
          return breakLine reversed ++ others
      | some (.inline inline, length) =>
          let others ← pieces labels skip definitions fuel [] (cursor.advance length)
          return flush reversed ++ .inline inline :: others
      | none =>
          match cursor.rest with
          | [] => return flush reversed
          | c :: _ =>
              match run? cursor with
              | some run =>
                  let others ← pieces labels skip definitions fuel [] (cursor.advance run.length)
                  return flush reversed ++ .run run :: others
              | none =>
                  match ← linked? labels skip definitions cursor with
                  | some (inline, after) =>
                      let others ← pieces labels skip definitions fuel [] after
                      return flush reversed ++ .inline inline :: others
                  | none =>
                      pieces labels skip definitions fuel (c :: reversed) (cursor.advance 1)

/-- Read running text in which links may be nested to some depth, itself
included.  Beyond it everything is text. -/
def inlines (image : List Char → List Inline) (definitions : List Definition) :
    Nat → Cursor → Lookahead (List Inline)
  | 0, cursor =>
      return if cursor.rest.isEmpty then [] else [.text (String.ofList cursor.rest)]
  | depth + 1, cursor => do
      let labels := ⟨image, inlines image definitions depth⟩
      let found ←
        pieces labels (lookahead definitions (depth + 1)) definitions cursor.rest.length [] cursor
      return Emphasis.resolve found

/-- How deep links may be nested, and how deep they are looked for. -/
def nestedLinks : Nat :=
  20

/-- Read running text; images are nested less often than the first argument
says. -/
def readNested (definitions : List Definition) : Nat → List Char → List Inline
  | 0, _ => []
  | images + 1, text =>
      (inlines (readNested definitions images) definitions nestedLinks
        (Cursor.start text)).run' .empty

/-- Read running text, given all link definitions. -/
def readText (definitions : List Definition) (text : List Char) : List Inline :=
  readNested definitions (text.length + 1) text

end Typeset.Markdown
