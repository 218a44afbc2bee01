import Typeset.Cli.Word
import Typeset.Number.Reading
import Typeset.Settings.Merge

/-!
# Arguments

The words of a command line become arguments: switches, values of options, and
at most one source.  Values are checked in the order in which they are given,
and of two values for one option the last one counts.

A value attached to an option that consists of two hyphens is dropped; an empty
list is left in its place, which no colour or length can be.
-/

namespace Typeset.Cli

/-- Why a command line was refused. -/
inductive UsageError where
  | ambiguous (word : String) (names : List String)
  | missingValue (key : Key)
  | unexpectedValue (key : Key) (value : List Char)
  | notNumber (key : Key) (value : String)
  | noPreset (value : String)
  | unrecognized (words : List String)
  | missingSource
  | outOfRange (field : Field) (low high : Int)

namespace UsageError

/-- A message about one option. -/
def about (key : Key) (text : String) : String :=
  "argument " ++ key.title ++ ": " ++ text

/-- The wording of a refusal. -/
def message : UsageError → String
  | ambiguous word names =>
      "ambiguous option: " ++ word ++ " could match " ++ ", ".intercalate names
  | missingValue key => about key "expected one argument"
  | unexpectedValue key value =>
      about key ("ignored explicit argument " ++ Text.Quoted.quoted (String.ofList value))
  | notNumber key value => about key ("invalid float value: " ++ Text.Quoted.quoted value)
  | noPreset value =>
      let keys := ", ".intercalate (Preset.all.map fun preset => Text.Quoted.quoted preset.key)
      about (.slot .preset)
        ("invalid choice: " ++ Text.Quoted.quoted value ++ " (choose from " ++ keys ++ ")")
  | unrecognized words => "unrecognized arguments: " ++ " ".intercalate words
  | missingSource => "a source file is required unless --sample is given"
  | outOfRange field low high =>
      fieldOption field ++ " must be between " ++ Number.intText low ++ " and " ++
        Number.intText high

end UsageError

/-- What a command line asks for. -/
structure Arguments where
  source : Option String := none
  output : Option String := none
  settings : Option String := none
  preset : Option Preset := none
  stylesheet : Option String := none
  /-- The values for fields, the last one first. -/
  fields : Entries := []
  switches : List Switch := []

namespace Arguments

/-- Whether a switch is given. -/
def has (arguments : Arguments) (switch : Switch) : Bool :=
  arguments.switches.contains switch

/-- The value for a field. -/
def field? (arguments : Arguments) (field : Field) : Option Value :=
  arguments.fields.lookup field.name

/-- The values for fields in field order. -/
def overrides (arguments : Arguments) : Entries :=
  Field.all.filterMap fun field =>
    (arguments.field? field).map fun value => (field.name, value)

/-- The value for a field as it is written on the command line. -/
def fieldValue (field : Field) (text : String) : Except UsageError Value :=
  if field.isLength then
    match Number.readDouble? text.toList with
    | some x => .ok (.number (.double x))
    | none => .error (.notNumber (.slot (.field field)) text)
  else
    .ok (.text text)

/-- Store the value of an option; `none` is the value that was dropped. -/
def store (arguments : Arguments) (slot : Slot) (value : Option String) :
    Except UsageError Arguments :=
  match slot with
  | .output => .ok { arguments with output := value }
  | .settings => .ok { arguments with settings := value }
  | .stylesheet => .ok { arguments with stylesheet := value }
  | .preset =>
      match value with
      | none => .ok { arguments with preset := none }
      | some key =>
          match Preset.find? key with
          | some preset => .ok { arguments with preset := some preset }
          | none => .error (.noPreset key)
  | .field field =>
      match value with
      | none => .ok { arguments with fields := (field.name, .list []) :: arguments.fields }
      | some text => do
          let read ← fieldValue field text
          return { arguments with fields := (field.name, read) :: arguments.fields }

/-! ## Reading -/

/-- The options that one word and the words after it stand for: the switches of
a cluster, then perhaps one option with its value, and the number of words that
are used up after the first. -/
structure Cluster where
  switches : List Switch
  slot : Option (Slot × Option String)
  used : Nat

/-- A value attached to an option. -/
def attachedValue (value : List Char) : Option String :=
  if value == ['-', '-'] then none else some (String.ofList value)

/-- Read an option.  The letters attached to a short switch are short options;
the first argument bounds their number. -/
def readCluster :
    Nat → String → Key → Option (List Char) → List Word → Except UsageError Cluster
  | 0, _, key, attached, _ => .error (.unexpectedValue key (attached.getD []))
  | _ + 1, _, .switch switch, none, _ => .ok ⟨[switch], none, 0⟩
  | _ + 1, _, .slot slot, some value, _ => .ok ⟨[], some (slot, attachedValue value), 0⟩
  | _ + 1, _, .slot slot, none, rest =>
      match rest with
      | .plain text :: _ => .ok ⟨[], some (slot, some text), 1⟩
      | _ => .error (.missingValue (.slot slot))
  | fuel + 1, name, .switch switch, some value, rest =>
      match "--".toList.isPrefixOf name.toList, value with
      | false, letter :: others =>
          let next := String.ofList ['-', letter]
          match Key.ofName? next with
          | some key => do
              let found ←
                readCluster fuel next key (if others.isEmpty then none else some others) rest
              return { found with switches := switch :: found.switches }
          | none => .error (.unexpectedValue (.switch switch) value)
      | _, _ => .error (.unexpectedValue (.switch switch) value)

/-- The state of reading: the arguments so far, whether a source may still
follow, and the words that have no use. -/
structure State where
  arguments : Arguments
  sourceExpected : Bool
  unused : List String

/-- How reading ends early. -/
inductive Stop where
  | help
  | error (error : UsageError)

/-- Use the options of a cluster. -/
def applyCluster (arguments : Arguments) (cluster : Cluster) : Except Stop Arguments := do
  if cluster.switches.contains .help then throw .help
  let switched := { arguments with switches := cluster.switches ++ arguments.switches }
  match cluster.slot with
  | none => return switched
  | some (slot, value) => (switched.store slot value).mapError .error

/-- Use the words after the last option: a source, unless there is one, and
words without use. -/
def readLast (state : State) (words : List Word) : State :=
  let leave (rest : List Word) : State :=
    { state with unused := state.unused ++ rest.map Word.text }
  let take (text : String) (rest : List Word) : State :=
    { state with
      arguments := { state.arguments with source := some text }
      unused := state.unused ++ rest.map Word.text }
  if !state.sourceExpected then leave words
  else
    match words with
    | .separator :: .plain text :: rest => take text rest
    | .plain text :: .separator :: rest => take text rest
    | .plain text :: rest => take text rest
    | .separator :: rest => leave rest
    | rest => leave rest

/-- Use words from left to right; the first argument bounds their number. -/
def readWords : Nat → State → List Word → Except Stop State
  | 0, state, _ => .ok state
  | fuel + 1, state, words =>
      if !words.any Word.isOption then .ok (readLast state words)
      else
        match words with
        | [] => .ok state
        | .option name key attached :: rest => do
            let cluster ←
              (readCluster (name.length + (attached.getD []).length + 1) name key attached
                rest).mapError .error
            let arguments ← applyCluster state.arguments cluster
            readWords fuel { state with arguments } (rest.drop cluster.used)
        | .unknown text :: rest =>
            readWords fuel { state with unused := state.unused ++ [text] } rest
        | word :: rest =>
            if state.sourceExpected then
              readWords fuel
                { state with
                  arguments := { state.arguments with source := some word.text }
                  sourceExpected := false }
                rest
            else
              readWords fuel { state with unused := state.unused ++ [word.text] } rest

/-- Read every word on its own.  After two hyphens all words are plain. -/
def readEach : List String → Except UsageError (List Word)
  | [] => .ok []
  | written :: rest =>
      if written == "--" then .ok (.separator :: rest.map .plain)
      else do
        let word ← (Word.read written).mapError (.ambiguous written)
        let words ← readEach rest
        return word :: words

/-- Read a command line. -/
def read (words : List String) : Except Stop Arguments := do
  let each ← (readEach words).mapError .error
  let state ← readWords (each.length + 1) ⟨{}, true, []⟩ each
  if state.unused.isEmpty then return state.arguments
  else throw (.error (.unrecognized state.unused))

end Arguments

end Typeset.Cli
