import Typeset.Settings.Basic

/-!
# Options

An option is a switch or takes a value.  It is known by one name or two; a name
starts with one hyphen and has one letter, or starts with two.
-/

namespace Typeset.Cli

/-- An option without a value. -/
inductive Switch where
  | help
  | sample
  | copy
  | listPresets
  | quiet
  | verbose
  deriving DecidableEq

/-- What the value of an option is for. -/
inductive Slot where
  | output
  | settings
  | preset
  | stylesheet
  | field (field : Field)
  deriving DecidableEq

/-- An option. -/
inductive Key where
  | switch (switch : Switch)
  | slot (slot : Slot)
  deriving DecidableEq

/-- The long name of the option that sets a field. -/
def fieldOption (field : Field) : String :=
  "--" ++ String.ofList (field.name.toList.map fun c => if c == '_' then '-' else c)

namespace Key

/-- The names of all options, in the order in which they are listed. -/
def names : List (String × Key) :=
  [("-h", switch .help), ("--help", switch .help), ("-o", slot .output),
    ("--output", slot .output), ("--sample", switch .sample),
    ("--settings", slot .settings), ("--preset", slot .preset)] ++
  Field.all.map (fun field => (fieldOption field, slot (.field field))) ++
  [("--css", slot .stylesheet), ("--copy", switch .copy),
    ("--list-presets", switch .listPresets), ("-q", switch .quiet),
    ("--quiet", switch .quiet), ("-v", switch .verbose), ("--verbose", switch .verbose)]

/-- The option with a given name. -/
def ofName? (name : String) : Option Key :=
  names.lookup name

/-- The names of an option as they are quoted in messages. -/
def title (key : Key) : String :=
  "/".intercalate ((names.filter fun entry => entry.2 == key).map Prod.fst)

/-- The options whose names start with a text. -/
def startingWith (start : List Char) : List (String × Key) :=
  names.filter fun entry => start.isPrefixOf entry.1.toList

end Key

end Typeset.Cli
