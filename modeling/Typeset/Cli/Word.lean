import Typeset.Cli.Key
import Typeset.Text.DecimalDigit

/-!
# Words of a command line

Every word of a command line is looked at on its own before any is used.  Two
hyphens end the options.  A long option may be shortened as long as only one
begins with it, and may have a value attached after an equals sign; a short
option may have one attached directly.  A negative number and a text with a
space are no options.
-/

namespace Typeset.Cli

/-- What a word is. -/
inductive Word where
  | plain (text : String)
  | separator
  | option (name : String) (key : Key) (attached : Option (List Char))
  | unknown (text : String)

namespace Word

/-- Whether a word is an option, known or not. -/
def isOption : Word → Bool
  | option .. | unknown _ => true
  | plain _ | separator => false

/-- The word as it was written, for words that are not options. -/
def text : Word → String
  | plain text => text
  | separator => "--"
  | option name .. => name
  | unknown text => text

/-- Whether a text is a negative number without exponent, with digits of any
script.  One line feed at its end does not count. -/
def isNegativeNumber (text : List Char) : Bool :=
  let isDigit (c : Char) : Bool := (Text.decimalDigit? c).isSome
  match if text.getLast? == some '\n' then text.dropLast else text with
  | '-' :: rest =>
      let whole := rest.takeWhile isDigit
      match rest.drop whole.length with
      | [] => !whole.isEmpty
      | '.' :: places => !places.isEmpty && places.all isDigit
      | _ => false
  | _ => false

/-- The option names that a word may stand for, with the value attached to it. -/
def candidates (text : List Char) : List (String × Key × Option (List Char)) :=
  match text with
  | '-' :: '-' :: _ =>
      let start := text.takeWhile (· != '=')
      let attached :=
        if start.length < text.length then some (text.drop (start.length + 1)) else none
      (Key.startingWith start).map fun (name, key) => (name, key, attached)
  | _ =>
      Key.names.filterMap fun (name, key) =>
        if name.toList == text.take 2 then some (name, key, some (text.drop 2))
        else if text.isPrefixOf name.toList then some (name, key, none)
        else none

/-- An option with its value after an equals sign. -/
def assigned? (text : List Char) : Option Word :=
  let name := String.ofList (text.takeWhile (· != '='))
  match text.dropWhile (· != '=') with
  | [] => none
  | _ :: value => (Key.ofName? name).map fun key => option name key (some value)

/-- Read a word before the end of the options; an error holds the names that the
word could stand for. -/
def read (written : String) : Except (List String) Word :=
  let text := written.toList
  match text with
  | '-' :: _ :: _ =>
      match Key.ofName? written with
      | some key => .ok (option written key none)
      | none =>
      match assigned? text with
      | some word => .ok word
      | none =>
      match candidates text with
      | [(name, key, attached)] => .ok (option name key attached)
      | [] =>
          if isNegativeNumber text || text.contains ' ' then .ok (plain written)
          else .ok (unknown written)
      | several => .error (several.map Prod.fst)
  | _ => .ok (plain written)

end Word

end Typeset.Cli
