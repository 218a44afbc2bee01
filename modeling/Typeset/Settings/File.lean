import Typeset.File.Error
import Typeset.Json.Reader
import Typeset.Settings.Merge

/-!
# Settings files

A settings file holds a JSON object whose members are merged into a snapshot.
Most faults are reported with the file's name; a file that is no text, an integer
of too many digits and a length beyond the largest double are not.
-/

namespace Typeset

/-- Why settings could not be loaded. -/
inductive LoadError where
  | file (error : FileError)
  | malformed (name : String) (fault : Json.Fault) (text : List Char)
  | notObject (name : String) (value : Value)
  | refused (name : String) (error : SettingsError)

namespace LoadError

/-- The kind of a load error: a refusal for names becomes one of the file's form. -/
def kind : LoadError → ErrorKind
  | file (.notText _) | file .nullByte => .value
  | file _ => .system
  | malformed .. | notObject .. => .value
  | refused _ .tooLarge => .overflow
  | refused .. => .value

/-- The wording of a load error. -/
def message : LoadError → String
  | file error => error.message
  | malformed _ fault@⟨.tooManyDigits _, _⟩ text => fault.message text
  | malformed name fault text =>
      "Invalid settings file " ++ name ++ ": " ++ fault.message text
  | notObject name value =>
      "Invalid settings file " ++ name ++ ": expected an object, got " ++ value.kindName
  | refused _ .tooLarge => SettingsError.tooLarge.message
  | refused name error => "Invalid settings file " ++ name ++ ": " ++ error.message

end LoadError

namespace Settings

/-- The text of a file's bytes, with unified line endings. -/
def decodeText (bytes : List UInt8) : Except FileError (List Char) :=
  match Text.Utf8.decode bytes with
  | .ok chars => .ok (Text.unifyLines chars)
  | .error fault => .error (.notText fault)

/-- Merge the object in a file's text into a snapshot. -/
def loadText (name : String) (text : List Char) (base : Settings) :
    Except LoadError Settings :=
  match Json.parse text with
  | .error fault => .error (.malformed name fault text)
  | .ok (.object members) =>
      match base.merge members with
      | .ok settings => .ok settings
      | .error error => .error (.refused name error)
  | .ok value => .error (.notObject name value)

/-- Load settings from the bytes of a file. -/
def load (name : String) (bytes : List UInt8) (base : Settings) :
    Except LoadError Settings :=
  match decodeText bytes with
  | .ok text => loadText name text base
  | .error error => .error (.file error)

end Settings

end Typeset
