import Std.Data.TreeMap
import Typeset.Markdown.Span

/-!
# Code in running text

Code stands between two runs of as many backticks.  A search for the second run
notes where it passes runs of other lengths.  Once a search has failed, the notes
are trusted: a run is plain text unless a run of its length was noted after it.
The notes are made for the text after the run that was searched for, and a later
note replaces an earlier one, so trusting them may leave code unrecognised.
-/

namespace Typeset.Markdown

open Typeset.Text

/-- What is known of the runs of backticks in a text. -/
structure TickNotes where
  /-- Whether a search has failed. -/
  trusted : Bool
  /-- The place of the run of each length that was noted last. -/
  places : Std.TreeMap Nat Nat

namespace TickNotes

/-- Nothing is known. -/
def empty : TickNotes :=
  ⟨false, ∅⟩

/-- Note the place of a run. -/
def note (notes : TickNotes) (length place : Nat) : TickNotes :=
  { notes with places := notes.places.insert length place }

/-- Whether a search for a run after a place is not worth while. -/
def isHopeless (notes : TickNotes) (length place : Nat) : Bool :=
  notes.trusted && notes.places.getD length 0 ≤ place

/-- The place of the first run of a given length in a text that starts at
`place`; `ticks` counts the backticks just before it. -/
def search (notes : TickNotes) (length place ticks : Nat) : List Char → Option Nat × TickNotes
  | [] =>
      if ticks = 0 then (none, { notes with trusted := true })
      else if ticks = length then (some (place - ticks), notes)
      else (none, { notes.note ticks (place - ticks) with trusted := true })
  | c :: rest =>
      if c == backtick then search notes length (place + 1) (ticks + 1) rest
      else if ticks = 0 then search notes length (place + 1) 0 rest
      else if ticks = length then (some (place - ticks), notes)
      else search (notes.note ticks (place - ticks)) length (place + 1) 0 rest

end TickNotes

namespace Span

/-- The content of code: line feeds are spaces, and one space is taken from both
ends unless there is nothing else. -/
def codeContent (text : List Char) : List Char :=
  let spaced := text.map fun c => if c == '\n' then ' ' else c
  if spaced.head? == some ' ' && spaced.getLast? == some ' ' && !spaced.all separatesWords then
    (spaced.drop 1).dropLast
  else
    spaced

/-- The code at the start of a text that stands at `place`, or a run of backticks
as plain text, and its length. -/
def code (notes : TickNotes) (place : Nat) (text : List Char) : (Span × Nat) × TickNotes :=
  let ticks := text.takeWhile (· == backtick)
  let length := ticks.length
  if notes.isHopeless length place then ((.plain ticks, length), notes)
  else
    match notes.search length (place + length) 0 (text.drop length) with
    | (some last, notes) =>
        let content := (text.take (last - place)).drop length
        ((.inline (.code (String.ofList (codeContent content))), last - place + length), notes)
    | (none, notes) => ((.plain ticks, length), notes)

end Span

end Typeset.Markdown
