/-!
# Documents

A document is a list of blocks.  The blocks that hold running text are generic
in it: the block structure is found with the text still in its written form,
and the text is read afterwards, when all link definitions are known.

The types leave no room for anything that the rest of the program could not
handle: a heading has one of six levels, the first number of a list has at most
nine digits, and there is no constructor for raw HTML.
-/

namespace Typeset.Markdown

/-- Running text. -/
inductive Inline where
  | text (content : String)
  | softBreak
  | hardBreak
  | code (content : String)
  | emphasis (children : List Inline)
  | strong (children : List Inline)
  | strike (children : List Inline)
  | link (address title : String) (children : List Inline)
  | image (address title label : String) (children : List Inline)

/-- A heading level, from one to six. -/
structure HeadingLevel where
  number : Nat
  one_le : 1 ≤ number
  le_six : number ≤ 6
  deriving DecidableEq

namespace HeadingLevel

/-- The level of a heading that is underlined with equals signs. -/
def first : HeadingLevel :=
  ⟨1, by decide, by decide⟩

/-- The level of a heading that is underlined with hyphens. -/
def second : HeadingLevel :=
  ⟨2, by decide, by decide⟩

/-- The level with a given number. -/
def ofNat? (n : Nat) : Option HeadingLevel :=
  if range : 1 ≤ n ∧ n ≤ 6 then some ⟨n, range.1, range.2⟩ else none

end HeadingLevel

/-- The first number of an ordered list, of nine digits at most. -/
abbrev ListStart := Fin 1000000000

/-- How the cells of a table column are aligned. -/
inductive ColumnAlignment where
  | unset
  | left
  | center
  | right
  deriving DecidableEq

/-- A block of a document whose running texts have type `α`. -/
inductive Block (α : Type) where
  | paragraph (tight : Bool) (text : α)
  | heading (level : HeadingLevel) (text : α)
  | quote (blocks : List (Block α))
  | bulletList (items : List (List (Block α)))
  | orderedList (start : ListStart) (items : List (List (Block α)))
  | fence (info content : String)
  | code (content : String)
  | rule
  | table (alignments : List ColumnAlignment) (header : List α) (rows : List (List α))

namespace Block

variable {α β : Type}

mutual

/-- Change every running text of a block. -/
def map (f : α → β) : Block α → Block β
  | paragraph tight text => paragraph tight (f text)
  | heading level text => heading level (f text)
  | quote blocks => quote (mapAll f blocks)
  | bulletList items => bulletList (mapItems f items)
  | orderedList start items => orderedList start (mapItems f items)
  | fence info content => fence info content
  | code content => code content
  | rule => rule
  | table alignments header rows =>
      table alignments (header.map f) (rows.map fun row => row.map f)

/-- Change every running text of a list of blocks. -/
def mapAll (f : α → β) : List (Block α) → List (Block β)
  | [] => []
  | block :: blocks => map f block :: mapAll f blocks

/-- Change every running text of a list's items. -/
def mapItems (f : α → β) : List (List (Block α)) → List (List (Block β))
  | [] => []
  | item :: items => mapAll f item :: mapItems f items

end

/-- Mark a block of a tight list: its paragraphs are shown without their own
element. -/
def tighten : Block α → Block α
  | paragraph _ text => paragraph true text
  | block => block

end Block

/-- Running text in its written form and as it was read. -/
structure RunningText where
  source : String
  inlines : List Inline

/-- A document with all its running text read. -/
abbrev Document := List (Block RunningText)

end Typeset.Markdown
