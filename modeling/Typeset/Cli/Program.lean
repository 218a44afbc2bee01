import Typeset.Cli.Arguments
import Typeset.Clipboard
import Typeset.File.Folder
import Typeset.Sample
import Typeset.Session
import Typeset.Settings.File
import Typeset.Status.Reporter

/-!
# The program

A run reads its arguments, puts the settings together, renders an article, and
writes the outputs.  Settings come from three layers: a file, a preset and the
options; later layers win.  A run ends with the exit code 0, with 1 when the
clipboard could not be written, or with 2 when it failed; a few faults are not
handled at all.
-/

namespace Typeset.Cli

/-- What a run finds. -/
structure Surroundings where
  folder : Folder
  /-- The text of the standard input. -/
  input : String
  machine : Clipboard.Machine
  console : Status.Console

/-- What a run leaves behind. -/
structure Outcome where
  exit : Nat
  output : String
  /-- The lines for the user, in order. -/
  notices : List String
  folder : Folder
  copies : List Clipboard.Call

/-- A fault that a run does not handle. -/
inductive Crash where
  /-- A length in a settings file is an integer beyond the largest double. -/
  | tooLarge
  /-- The value of a ranged option was dropped. -/
  | noComparison
  /-- A file to write has a name with a null character. -/
  | nullByte
  /-- The console refuses a status line. -/
  | refused (fault : Status.Fault)
  /-- The clipboard's program takes or prints text in another encoding. -/
  | garbled (reason : String)

/-- The wording of a fault. -/
def Crash.message : Crash → String
  | tooLarge => "int too large to convert to float"
  | noComparison => "'<=' not supported between instances of 'int' and 'list'"
  | nullByte => FileError.nullByte.message
  | refused fault => fault.message
  | garbled reason => reason

/-- Why a run ends with the exit code 2. -/
inductive Failure where
  | file (error : FileError)
  | load (error : LoadError)
  | settings (error : SettingsError)

/-- The wording of a failure. -/
def Failure.message : Failure → String
  | file error => error.message
  | load error => error.message
  | settings error => error.message

/-- The name of the program. -/
def programName : String :=
  "md2wechat"

namespace Outcome

/-- The outcome of a run that ends before anything is done. -/
def early (surroundings : Surroundings) (exit : Nat) (output : String)
    (notices : List String) : Outcome :=
  ⟨exit, output, notices, surroundings.folder, []⟩

/-- The outcome of a run whose command line is refused. -/
def refused (surroundings : Surroundings) (error : UsageError) : Outcome :=
  early surroundings 2 "" [programName ++ ": error: " ++ error.message]

/-- End a run with a failure. -/
def failed (outcome : Outcome) (failure : Failure) : Outcome :=
  { outcome with
    exit := 2
    notices := outcome.notices ++ ["[ERROR] Fatal error: " ++ failure.message] }

/-- Add lines for the user. -/
def notify (outcome : Outcome) (lines : List String) : Outcome :=
  { outcome with notices := outcome.notices ++ lines }

/-- Add a status line. -/
def report (outcome : Outcome) (reporter : Status.Reporter) (line : Status.Line) :
    Except Crash Outcome := do
  let lines ← (reporter.report line).mapError .refused
  return outcome.notify lines

end Outcome

/-! ## Checks -/

/-- Why the values of ranged options are refused. -/
inductive RangeFault where
  | usage (error : UsageError)
  | crash (crash : Crash)

/-- Check the values of ranged options. -/
def checkOptionRanges (arguments : Arguments) :
    List (Field × Int × Int) → Except RangeFault Unit
  | [] => .ok ()
  | (field, low, high) :: rest =>
      match arguments.field? field with
      | none => checkOptionRanges arguments rest
      | some (.number value) =>
          if value.within low high then checkOptionRanges arguments rest
          else .error (.usage (.outOfRange field low high))
      | some _ => .error (.crash .noComparison)

/-- An option's value that counts as given: the empty text does not. -/
def given? (value : Option String) : Option String :=
  value.filter fun text => !text.isEmpty

/-! ## Inputs -/

/-- The settings of the file that an option names. -/
def fileSettings (folder : Folder) (name : String) : Except Failure Settings := do
  let path := FilePath.ofString name
  let bytes ← (folder.read path).mapError .file
  (Settings.load path.text bytes {}).mapError .load

/-- The settings of all layers. -/
def layeredSettings (folder : Folder) (arguments : Arguments) : Except Failure Settings := do
  let base ←
    match given? arguments.settings with
    | some name => fileSettings folder name
    | none => pure {}
  let accented ←
    match arguments.preset with
    | some preset => (base.applyAccent (.text preset.primary)).mapError .settings
    | none => pure base
  let settings ← (accented.merge arguments.overrides).mapError .settings
  settings.checkRanges.mapError .settings
  return settings

/-- The text of the article. -/
def articleText (surroundings : Surroundings) (arguments : Arguments) : Except Failure String := do
  if arguments.has .sample then return sampleArticle
  let source := arguments.source.getD ""
  if source = "-" then return surroundings.input
  let bytes ← (surroundings.folder.read (FilePath.ofString source)).mapError .file
  let text ← (Settings.decodeText bytes).mapError .file
  return String.ofList text

/-- Whether a failure is not handled: an integer that is too large. -/
def Failure.isCrash : Failure → Bool
  | load (.refused _ .tooLarge) => true
  | settings .tooLarge => true
  | _ => false

/-! ## Outputs -/

/-- Write a file and report it, or end the run. -/
def writeFile (outcome : Outcome) (name text : String) (reporter : Status.Reporter)
    (line : Status.Line) : Except Crash (Except Outcome Outcome) :=
  match outcome.folder.write (FilePath.ofString name) text.toUTF8.toList with
  | .ok folder => ({ outcome with folder }.report reporter line).map .ok
  | .error .nullByte => .error .nullByte
  | .error error => .ok (.error (outcome.failed (.file error)))

/-- What is reported of a rendered article: the lengths of the text and of its
HTML without the section around it. -/
def lengthNotice (markdown html : String) : String :=
  let around := (Article.wrap "").length
  "[DEBUG] rendered " ++ Number.intText markdown.length ++ " chars of markdown to " ++
    Number.intText (html.length - around) ++ " chars"

/-- Write the HTML to its file or to the standard output. -/
def writeHtml (arguments : Arguments) (reporter : Status.Reporter) (session : Session)
    (outcome : Outcome) : Except Crash (Except Outcome Outcome) :=
  match given? arguments.output with
  | none => .ok (.ok { outcome with output := outcome.output ++ session.html ++ "\n" })
  | some name =>
      writeFile outcome name session.html reporter (.info ("Wrote HTML to " ++ name))

/-- Write the style sheet, if it is asked for. -/
def writeStylesheet (arguments : Arguments) (reporter : Status.Reporter) (session : Session)
    (outcome : Outcome) : Except Crash (Except Outcome Outcome) :=
  match given? arguments.stylesheet with
  | none => .ok (.ok outcome)
  | some name =>
      writeFile outcome name session.stylesheet reporter
        (.info ("Wrote Obsidian CSS snippet to " ++ name))

/-- Copy the HTML to the clipboard, if it is asked for. -/
def copyHtml (arguments : Arguments) (machine : Clipboard.Machine) (reporter : Status.Reporter)
    (session : Session) (outcome : Outcome) : Except Crash Outcome :=
  if arguments.has .copy then do
    let copy ← (machine.copy session.html).mapError .garbled
    let attempted :=
      { outcome with
        exit := if copy.copied then 0 else 1
        notices := outcome.notices ++ copy.notices
        copies := copy.calls }
    attempted.report reporter (.copyResult copy.copied)
  else
    .ok outcome

/-- What tells the user of a run. -/
def reporterOf (surroundings : Surroundings) (arguments : Arguments) : Status.Reporter :=
  ⟨arguments.has .quiet, surroundings.console⟩

/-- Write all outputs of a session. -/
def finish (surroundings : Surroundings) (arguments : Arguments) (markdown : String)
    (session : Session) : Except Crash Outcome := do
  let notices := if arguments.has .verbose then [lengthNotice markdown session.html] else []
  let reporter := reporterOf surroundings arguments
  match ← writeHtml arguments reporter session (.early surroundings 0 "" notices) with
  | .error ended => return ended
  | .ok outcome =>
      match ← writeStylesheet arguments reporter session outcome with
      | .error ended => return ended
      | .ok outcome => copyHtml arguments surroundings.machine reporter session outcome

/-! ## Runs -/

/-- The lines that list the presets. -/
def presetList : String :=
  String.join (Preset.all.map fun preset =>
    preset.key ++ "\t" ++ preset.primary ++ "\t" ++ preset.name ++ "\n")

/-- Render and write an article. -/
def typeset (surroundings : Surroundings) (arguments : Arguments) : Except Crash Outcome :=
  let inputs := do
    let settings ← layeredSettings surroundings.folder arguments
    let markdown ← articleText surroundings arguments
    return (settings, markdown)
  match inputs with
  | .error failure =>
      if failure.isCrash then .error .tooLarge
      else .ok ((Outcome.early surroundings 0 "" []).failed failure)
  | .ok (settings, markdown) =>
      match Session.start (.text markdown) settings with
      | .ok session => finish surroundings arguments markdown session
      | .error _ => .error .tooLarge

/-- Run the program with given words.  The text of the help is left out. -/
def run (surroundings : Surroundings) (words : List String) : Except Crash Outcome :=
  match Arguments.read words with
  | .error .help => .ok (.early surroundings 0 "" [])
  | .error (.error error) => .ok (.refused surroundings error)
  | .ok arguments =>
      if arguments.has .listPresets then .ok (.early surroundings 0 presetList [])
      else if (given? arguments.source).isNone && !arguments.has .sample then
        .ok (.refused surroundings .missingSource)
      else
        match checkOptionRanges arguments Settings.ranges with
        | .error (.usage error) => .ok (.refused surroundings error)
        | .error (.crash crash) => .error crash
        | .ok () => typeset surroundings arguments

end Typeset.Cli
