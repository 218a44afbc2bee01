/-!
# Kinds of white space

Five sets are in use, each larger than the one before:

- blanks, which indent lines and separate tokens inside a line;
- spacing, which decides what an emphasis marker leans on;
- edges, which are trimmed from headings, paragraphs and cells;
- padding, which may surround a number;
- word separators, which split an info string.

The inclusions are stated after the definitions.
-/

namespace Typeset.Text

/-- Spaces and tabs. -/
def isBlank (c : Char) : Bool :=
  c == ' ' || c == '\t'

/-- White space beside an emphasis marker: the ASCII white space and the space
characters of the other scripts. -/
def isSpacing (c : Char) : Bool :=
  let n := c.toNat
  (0x09 ≤ n && n ≤ 0x0D) || n == 0x20 || n == 0xA0 || n == 0x1680 ||
    (0x2000 ≤ n && n ≤ 0x200A) || n == 0x202F || n == 0x205F || n == 0x3000

/-- White space that is trimmed from both ends of a heading, paragraph or
cell: spacing, and the line and paragraph separators. -/
def isEdge (c : Char) : Bool :=
  isSpacing c || c.toNat == 0x2028 || c.toNat == 0x2029

/-- White space around the text of a number: edges and the next-line control. -/
def isPadding (c : Char) : Bool :=
  isEdge c || c.toNat == 0x85

/-- White space between words: padding and the four information separators. -/
def separatesWords (c : Char) : Bool :=
  isPadding c || (0x1C ≤ c.toNat && c.toNat ≤ 0x1F)

/-! ## Trimming and splitting -/

/-- Drop the characters of a class from both ends. -/
def trim (drops : Char → Bool) (text : List Char) : List Char :=
  ((text.dropWhile drops).reverse.dropWhile drops).reverse

/-- Cut a text at every occurrence of one character. -/
def splitAt (mark : Char) : List Char → List (List Char)
  | [] => [[]]
  | c :: rest =>
      if c == mark then
        [] :: splitAt mark rest
      else
        match splitAt mark rest with
        | [] => [[c]]
        | piece :: pieces => (c :: piece) :: pieces

/-- A cut text has at least one piece. -/
theorem splitAt_ne_nil (mark : Char) (text : List Char) : splitAt mark text ≠ [] := by
  cases text with
  | nil => simp [splitAt]
  | cons c rest =>
      rw [splitAt]
      split
      · simp
      · split <;> simp

/-- The first word of a text. -/
def firstWord? (text : List Char) : Option (List Char) :=
  match text.dropWhile separatesWords with
  | [] => none
  | word => some (word.takeWhile fun c => !separatesWords c)

/-- Trim a text and put one space for each run of white space inside it. -/
def collapse (text : List Char) : List Char :=
  go (trim separatesWords text)
where
  /-- One space for the first character of a run, nothing for the others. -/
  go : List Char → List Char
    | [] => []
    | [c] => [if separatesWords c then ' ' else c]
    | c :: next :: rest =>
        if separatesWords c then
          if separatesWords next then go (next :: rest) else ' ' :: go (next :: rest)
        else
          c :: go (next :: rest)

end Typeset.Text
