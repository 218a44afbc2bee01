import Typeset.Status.Console

/-!
# Status lines

Status lines tell the user what was done.  Errors are always shown, information
only when the program is not quiet.
-/

namespace Typeset.Status

/-- A line for the user. -/
inductive Line where
  | error (message : String)
  | info (message : String)
  | copyResult (copied : Bool)

namespace Line

/-- The line in the words of the other two kinds. -/
def plain : Line → Line
  | copyResult true => info "[green]Copied![/green] HTML is on the clipboard"
  | copyResult false => error "Could not copy HTML to the clipboard"
  | line => line

/-- The text that is shown, if any. -/
def text? (quiet : Bool) (line : Line) : Option String :=
  match line.plain with
  | error message => some ("[red]ERROR:[/red] " ++ message)
  | info message => if quiet then none else some message
  | copyResult _ => none

end Line

/-- What tells the user: a console, to which information is given unless the program is
quiet. -/
structure Reporter where
  quiet : Bool
  console : Console

/-- What is printed of a line. -/
def Reporter.report (reporter : Reporter) (line : Line) : Except Fault (List String) :=
  match line.text? reporter.quiet with
  | none => .ok []
  | some message => (reporter.console.print message).map fun printed => [printed]

end Typeset.Status
