import Typeset.Status.Markup

/-!
# Consoles

The lines for the user are printed by a console, which takes each of them as markup.  What
a console prints is up to it, save for messages whose markup is known: it refuses those
that are not well-formed, and prints the others, as they are read if they fit into one of
its lines.  Colours and other looks are left out of what is printed.
-/

namespace Typeset.Status

/-- Why a console refuses a message. -/
inductive Fault where
  /-- The message is not well-formed. -/
  | markup (message : String)
  /-- A value in the message is not of the right form. -/
  | value (message : String)

/-- The wording of a refusal. -/
def Fault.message : Fault → String
  | markup message => message
  | value message => message

/-- What prints messages. -/
structure Console where
  /-- The number of columns of a line. -/
  width : Nat
  /-- What is printed of a message. -/
  print : String → Except Fault String

/-- The most columns that a text can take: one for each character of ASCII, and two for any
other one. -/
def columns : List Char → Nat
  | [] => 0
  | c :: text => (if c.toNat < 0x80 then 1 else 2) + columns text

namespace Console

/-- A text fits into a line whatever the widths of its characters, and has no tab in it. -/
def Fits (console : Console) (text : List Char) : Prop :=
  '\t' ∉ text ∧ columns text ≤ console.width

instance (console : Console) (text : List Char) : Decidable (console.Fits text) :=
  inferInstanceAs (Decidable (_ ∧ _))

/-- A console follows the markup that is known. -/
structure Follows (console : Console) : Prop where
  refuses : ∀ message error, reading? message = some (.error error) →
    console.print message = .error (.markup error.message)
  prints : ∀ message text, reading? message = some (.ok text) →
    ∃ printed, console.print message = .ok printed
  whole : ∀ message text, reading? message = some (.ok text) → console.Fits text.toList →
    console.print message = .ok text

/-- Replace tabs by spaces up to the next column that is a multiple of eight. -/
def expandTabs (column : Nat) : List Char → List Char
  | [] => []
  | c :: rest =>
      if c == '\t' then
        let width := 8 - column % 8
        List.replicate width ' ' ++ expandTabs (column + width) rest
      else if c == '\n' then c :: expandTabs 0 rest
      else c :: expandTabs (column + 1) rest

/-- A simple console of eighty columns.  It takes the tags whose meaning is left to it for
styles as well, and does not break lines. -/
def plain : Console where
  width := 80
  print message :=
    match shown message with
    | .error error => .error (.markup error.message)
    | .ok text => .ok (String.ofList (expandTabs 0 text.toList))

end Console

end Typeset.Status
