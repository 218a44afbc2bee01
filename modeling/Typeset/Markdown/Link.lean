import Typeset.Markdown.CodeSpan
import Typeset.Markdown.Definition

/-!
# Links and images

A link is a label between square brackets with a target, which stands in
parentheses after it or is named by a second label or by the label itself.  An
image has an exclamation mark before its label.

Brackets are matched by looking ahead over whole spans, so that a bracket inside
code, or inside another link, does not count.  Looking ahead may have to look
ahead again; it does so to a limited depth, and what it finds at a position is
kept, whatever the depth at which it was found.
-/

namespace Typeset.Markdown

open Typeset.Text

/-- A place in running text. -/
structure Cursor where
  /-- The number of characters before the place. -/
  position : Nat
  /-- The character before the place, a space at the start. -/
  before : Char
  rest : List Char

namespace Cursor

/-- The start of a text. -/
def start (text : List Char) : Cursor :=
  ⟨0, ' ', text⟩

/-- A place some characters further on. -/
def advance (cursor : Cursor) (count : Nat) : Cursor where
  position := cursor.position + count
  before := (cursor.rest.take count).getLast?.getD cursor.before
  rest := cursor.rest.drop count

/-- The place in the same text where only `rest` is left. -/
def moveTo (cursor : Cursor) (rest : List Char) : Cursor :=
  cursor.advance (cursor.rest.length - rest.length)

/-- The text between a place and a later one. -/
def upTo (cursor later : Cursor) : List Char :=
  cursor.rest.take (later.position - cursor.position)

end Cursor

/-- What was learnt of a text by looking ahead. -/
structure Memo where
  /-- The places after spans, by the places at which they start. -/
  ends : Std.TreeMap Nat Nat
  ticks : TickNotes

/-- Nothing is known. -/
def Memo.empty : Memo :=
  ⟨∅, .empty⟩

/-- A computation that looks ahead. -/
abbrev Lookahead :=
  StateM Memo

/-- A way to find the end of a span. -/
abbrev Skip :=
  Cursor → Lookahead Cursor

/-- A link or an image: the place where its label starts, the label, its target
and the place after it. -/
structure LinkMatch where
  inner : Cursor
  label : List Char
  target : Target
  after : Cursor

/-! ## Targets -/

/-- The target after an opening parenthesis, and the text at which the closing
one is expected.  An address that is refused is not read at all. -/
def parenthesized? (text : List Char) : Option (Target × List Char) :=
  let start := text.dropWhile isGap
  if start.isEmpty then none
  else
    match address? start with
    | none => some (⟨[], []⟩, start)
    | some (written, rest) =>
        let address := Url.normalize written
        if !Url.isSafe address then some (⟨[], []⟩, start)
        else
          let next := rest.dropWhile isGap
          let title := if next.length < rest.length then title? next else none
          match title with
          | some (title, after) => some (⟨address, title⟩, after.dropWhile isGap)
          | none => some (⟨address, []⟩, next)

/-- The place of the bracket that closes a label; `opened` counts the brackets
inside it that are open.  If `nested` is not set, the label may not hold links.
The first numeric argument bounds the number of spans. -/
def closing? (skip : Skip) (nested : Bool) : Nat → Nat → Cursor → Lookahead (Option Cursor)
  | 0, _, _ => pure none
  | fuel + 1, opened, cursor =>
      match cursor.rest with
      | [] => pure none
      | c :: _ =>
          if c == ']' && opened = 0 then pure (some cursor)
          else do
            let next ← skip cursor
            if c == '[' then
              if next.position = cursor.position + 1 then
                closing? skip nested fuel (opened + 1) next
              else if nested then closing? skip nested fuel opened next
              else pure none
            else
              closing? skip nested fuel (if c == ']' then opened - 1 else opened) next

/-- The place of the bracket that closes the label after a place. -/
def labelEnd? (skip : Skip) (nested : Bool) (inner : Cursor) : Lookahead (Option Cursor) :=
  closing? skip nested inner.rest.length 0 inner

/-- The target that is named by a second label at a place, or by the first
label, and the place after it. -/
def namedTarget? (skip : Skip) (definitions : List Definition) (label : List Char)
    (after place : Cursor) : Lookahead (Option (Target × Cursor)) := do
  if definitions.isEmpty then return none
  let second ←
    match place.rest with
    | '[' :: _ => labelEnd? skip true (place.advance 1)
    | _ => pure none
  let (name, last) :=
    match second with
    | some close => ((place.advance 1).upTo close, close.advance 1)
    | none => ([], after)
  return (findTarget? definitions (if name.isEmpty then label else name)).map fun target =>
    (target, last)

/-! ## Matching -/

/-- The link whose label starts at a place, after its bracket. -/
def matchLink? (skip : Skip) (definitions : List Definition) (inner : Cursor) :
    Lookahead (Option LinkMatch) := do
  let some close ← labelEnd? skip false inner | return none
  let label := inner.upTo close
  let after := close.advance 1
  let named (place : Cursor) : Lookahead (Option LinkMatch) := do
    let found ← namedTarget? skip definitions label after place
    return found.map fun (target, last) => ⟨inner, label, target, last⟩
  match after.rest with
  | '(' :: text =>
      match parenthesized? text with
      | none => return none
      | some (target, rest) =>
          let last := (after.moveTo rest).advance 1
          if rest.head? == some ')' then return some ⟨inner, label, target, last⟩
          else named last
  | _ => named after

/-- The image whose label starts at a place, after its bracket. -/
def matchImage? (skip : Skip) (definitions : List Definition) (inner : Cursor) :
    Lookahead (Option LinkMatch) := do
  let some close ← labelEnd? skip true inner | return none
  let label := inner.upTo close
  let after := close.advance 1
  match after.rest with
  | '(' :: text =>
      match parenthesized? text with
      | none => return none
      | some (target, rest) =>
          if rest.head? == some ')' then
            return some ⟨inner, label, target, (after.moveTo rest).advance 1⟩
          else
            return none
  | _ =>
      let found ← namedTarget? skip definitions label after after
      return found.map fun (target, last) => ⟨inner, label, target, last⟩

/-! ## Looking ahead -/

/-- The span at a place and its length. -/
def spanAt? (cursor : Cursor) : Lookahead (Option (Span × Nat)) := do
  if cursor.rest.head? == some backtick then
    let memo ← get
    let (found, ticks) := Span.code memo.ticks cursor.position cursor.rest
    set { memo with ticks }
    return some found
  else
    return Span.find? cursor.rest

/-- The end of the span at a place, or the next place. -/
def skipSpan (skip : Skip) (definitions : List Definition) : Skip :=
  fun cursor => do
    match ← spanAt? cursor with
    | some (_, length) => return cursor.advance length
    | none =>
        let found ←
          match cursor.rest with
          | '[' :: _ => matchLink? skip definitions (cursor.advance 1)
          | '!' :: '[' :: _ => matchImage? skip definitions (cursor.advance 2)
          | _ => pure none
        match found with
        | some link => return link.after
        | none => return cursor.advance 1

/-- Keep what is found. -/
def remember (skip : Skip) : Skip :=
  fun cursor => do
    match (← get).ends[cursor.position]? with
    | some position => return cursor.advance (position - cursor.position)
    | none =>
        let next ← skip cursor
        modify fun memo => { memo with ends := memo.ends.insert cursor.position next.position }
        return next

/-- Look ahead to a limited depth.  Beyond it nothing is found before the end of
the text. -/
def lookahead (definitions : List Definition) : Nat → Skip
  | 0 => remember fun cursor => return cursor.advance (cursor.rest.length + 1)
  | depth + 1 => remember (skipSpan (lookahead definitions depth) definitions)

end Typeset.Markdown
