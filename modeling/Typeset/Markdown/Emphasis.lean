import Typeset.Markdown.Document
import Typeset.Text.Punctuation
import Typeset.Text.Blank

/-!
# Emphasis

Asterisks, underscores and tildes come in runs.  The characters around a run
decide whether it can open and whether it can close a span.  A run that can
close is matched with the nearest runs before it that can open; what is left of
it may open spans itself, or is text.

One sign on each side makes emphasis, two adjacent ones make it strong.  Tildes
count in pairs; when a run has an odd number of them, one is text.
-/

namespace Typeset.Markdown

open Typeset.Text

/-- A run of emphasis signs. -/
structure Run where
  sign : Char
  /-- The number of signs. -/
  length : Nat
  canOpen : Bool
  canClose : Bool

namespace Run

/-- Whether a run consists of tildes. -/
def isStrike (run : Run) : Bool :=
  run.sign == '~'

/-- How often a run may open or close a span. -/
def units (run : Run) : Nat :=
  if run.isStrike then run.length / 2 else run.length

/-- The text of one unit of a run. -/
def unitText (run : Run) : String :=
  if run.isStrike then "~~" else run.sign.toString

/-- The run of signs between two characters.  Underscores do not split words. -/
def between (sign : Char) (length : Nat) (before after : Char) : Run :=
  let left := !(isSpacing after ||
    (isPunctuation after && !(isSpacing before || isPunctuation before)))
  let right := !(isSpacing before ||
    (isPunctuation before && !(isSpacing after || isPunctuation after)))
  let splits := sign != '_'
  { sign, length
    canOpen := left && (splits || !right || isPunctuation before)
    canClose := right && (splits || !left || isPunctuation after) }

/-- Whether an opening run may be closed by another.  When one of two emphasis
runs could both open and close, their lengths must not add up to a multiple of
three, unless both are multiples of three. -/
def opensFor (opening closing : Run) : Bool :=
  opening.sign == closing.sign &&
    (opening.isStrike || !(opening.canClose || closing.canOpen) ||
      (opening.length + closing.length) % 3 != 0 ||
      (opening.length % 3 == 0 && closing.length % 3 == 0))

end Run

/-- A part of running text whose emphasis is not resolved yet. -/
inductive Piece where
  | inline (inline : Inline)
  | run (run : Run)

namespace Inline

/-- Join adjacent texts. -/
def joinTexts : List Inline → List Inline
  | [] => []
  | inline :: rest =>
      match inline, joinTexts rest with
      | .text first, .text second :: others => .text (first ++ second) :: others
      | _, others => inline :: others

end Inline

namespace Emphasis

/-- A resolved part of running text.  A span of one sign, which another one
around it may still make strong, is known by that sign. -/
structure Item where
  inline : Inline
  span : Option Char

/-- A text as a resolved part. -/
def Item.text (content : String) : Item :=
  ⟨.text content, none⟩

/-- The running text that parts in reverse order stand for. -/
def inlines (reversed : List Item) : List Inline :=
  Inline.joinTexts (reversed.reverse.map Item.inline)

/-- One unit of a run that may still be closed, and the parts after it, in
reverse order. -/
structure Opener where
  run : Run
  content : List Item

/-- Running text that is resolved from left to right: the parts before the first
opener, in reverse order, and the openers, the last one first. -/
structure State where
  base : List Item
  openers : List Opener

namespace State

/-- The state before any text. -/
def start : State :=
  ⟨[], []⟩

/-- Add a part. -/
def add (state : State) (item : Item) : State :=
  match state.openers with
  | [] => { state with base := item :: state.base }
  | opener :: others =>
      let grown := { opener with content := item :: opener.content }
      { state with openers := grown :: others }

/-- Add a text several times. -/
def addTexts (state : State) (content : String) : Nat → State
  | 0 => state
  | count + 1 => (state.add (.text content)).addTexts content count

/-- Add openers for some units of a run. -/
def addOpeners (state : State) (run : Run) : Nat → State
  | 0 => state
  | count + 1 => { state with openers := ⟨run, []⟩ :: (state.addOpeners run count).openers }

/-- The parts that openers stand for when they are not closed. -/
def unopened (openers : List Opener) : List Item :=
  openers.flatMap fun opener => opener.content ++ [Item.text opener.run.unitText]

/-- The parts that a span is replaced by.  A span that holds nothing but a span
of the same sign is strong; the signs that it does not need leave empty texts. -/
def spanItems (sign : Char) (content : List Item) : List Item :=
  if sign == '~' then [⟨.strike (inlines content), none⟩]
  else
    match content with
    | [⟨.emphasis children, some inner⟩] =>
        if inner == sign then [.text "", ⟨.strong children, none⟩, .text ""]
        else [⟨.emphasis (inlines content), some sign⟩]
    | _ => [⟨.emphasis (inlines content), some sign⟩]

/-- Close the nearest opener that a unit of a run matches. -/
def close? (state : State) (run : Run) : Option State :=
  let skipped := state.openers.takeWhile fun opener => !opener.run.opensFor run
  match state.openers.drop skipped.length with
  | [] => none
  | opener :: below =>
      let content := unopened skipped ++ opener.content
      some ((spanItems run.sign content).foldl State.add ⟨state.base, below⟩)

/-- Close up to so many units of a run; the number of units that are left. -/
def closeUnits (state : State) (run : Run) : Nat → State × Nat
  | 0 => (state, 0)
  | count + 1 =>
      match state.close? run with
      | some closed => closed.closeUnits run count
      | none => (state, count + 1)

/-- Read a run: close what it can close, and open or write the rest.  The odd
tilde stands after the spans that are closed. -/
def addRun (state : State) (run : Run) : State :=
  let (closed, left) := if run.canClose then state.closeUnits run run.units else (state, run.units)
  let odd := if run.isStrike && run.length % 2 == 1 then closed.add (.text "~") else closed
  if run.canOpen then odd.addOpeners run left else odd.addTexts run.unitText left

/-- Read a piece of running text. -/
def addPiece (state : State) : Piece → State
  | .inline inline => state.add ⟨inline, none⟩
  | .run run => state.addRun run

/-- The running text that was read; what is still open is text. -/
def finish (state : State) : List Inline :=
  inlines (unopened state.openers ++ state.base)

end State

/-- Resolve the emphasis of running text. -/
def resolve (pieces : List Piece) : List Inline :=
  (pieces.foldl State.addPiece State.start).finish

end Emphasis

end Typeset.Markdown
