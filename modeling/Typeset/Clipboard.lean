import Typeset.Settings.Value

/-!
# The clipboard

Text is put on the clipboard by the first of five programs that is installed.
It is run once; a failure is reported and not repeated.  What the program takes
and prints is text in the encoding of the machine.
-/

namespace Typeset.Clipboard

/-- A program with its arguments. -/
abbrev Command := List String

/-- The programs that write to the clipboard, in the order in which they are
looked for. -/
def commands : List Command :=
  [["pbcopy"], ["wl-copy"], ["xclip", "-selection", "clipboard"],
    ["xsel", "--clipboard", "--input"], ["clip"]]

/-- Why a program did not take a text. -/
inductive Failure where
  /-- It ended with a status that is not zero. -/
  | exited (status : Nat) (nonzero : status ≠ 0)
  /-- It was ended by a signal, given as it is quoted. -/
  | killed (signal : String)
  /-- It could not be run, for a reason of the system. -/
  | denied (reason : String)
  deriving DecidableEq

/-- How a program ends. -/
inductive Ending where
  | accepted
  | failed (failure : Failure)
  /-- The text, or what the program printed, is not in the encoding of the machine. -/
  | garbled (reason : String)
  deriving DecidableEq

/-- What is known of the machine: the installed programs, and how they end. -/
structure Machine where
  available : List String
  ending : Ending

/-- The machine without clipboard programs. -/
def Machine.bare : Machine :=
  ⟨[], .accepted⟩

/-- The program that is used. -/
def Machine.command? (machine : Machine) : Option Command :=
  commands.find? fun command => command.head?.any machine.available.contains

/-- One run of a program. -/
structure Call where
  command : Command
  input : String

/-- The outcome of an attempt to copy. -/
structure Copy where
  copied : Bool
  calls : List Call
  notices : List String

/-- A command as it is quoted in messages. -/
def quotedCommand (command : Command) : String :=
  (Value.list (command.map Value.text)).quoted

/-- The wording of a failure. -/
def Failure.message (command : Command) : Failure → String
  | exited status _ =>
      "Command '" ++ quotedCommand command ++ "' returned non-zero exit status " ++
        Number.intText status ++ "."
  | killed signal => "Command '" ++ quotedCommand command ++ "' died with " ++ signal ++ "."
  | denied reason => reason

/-- Put a text on the clipboard.  A failure is noted; a wrong encoding is not handled. -/
def Machine.copy (machine : Machine) (text : String) : Except String Copy :=
  match machine.command? with
  | none => .ok ⟨false, [], ["[WARNING] No clipboard command found"]⟩
  | some command =>
      match machine.ending with
      | .accepted => .ok ⟨true, [⟨command, text⟩], []⟩
      | .failed failure =>
          let notice := "[WARNING] Clipboard write failed: " ++ failure.message command
          .ok ⟨false, [⟨command, text⟩], [notice]⟩
      | .garbled reason => .error reason

end Typeset.Clipboard
