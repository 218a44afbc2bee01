import Typeset.Settings.Basic
import Typeset.Settings.Preset

/-!
# Merging values into settings

A list of named values is merged into a snapshot in three steps: names are
resolved, the values of known fields are checked in field order, and names of
no field are refused in list order.  Only then is anything stored, so a failed
merge leaves no trace.
-/

namespace Typeset

/-- Named values in the order in which they were given. -/
abbrev Entries := List (String × Value)

/-- Why settings were refused. -/
inductive SettingsError where
  /-- Two entries name the same field. -/
  | repeated (name : String)
  /-- An entry names no field. -/
  | unexpected (key : String)
  /-- A colour is not a text. -/
  | notText (field : Field) (value : Value)
  /-- A length is not a finite number. -/
  | notNumber (field : Field) (value : Value)
  /-- A length is an integer beyond the largest double. -/
  | tooLarge
  /-- A length lies outside its range. -/
  | outOfRange (field : Field) (low high : Int) (value : Number)

/-- The kinds of errors that callers tell apart. -/
inductive ErrorKind where
  /-- A name that is given twice, or that is not known. -/
  | naming
  /-- A value or a text that is not of the right form. -/
  | value
  /-- A number that is too large to be converted. -/
  | overflow
  /-- A file that cannot be reached. -/
  | system
  deriving DecidableEq, Repr

namespace SettingsError

/-- The kind of a refusal. -/
def kind : SettingsError → ErrorKind
  | repeated _ | unexpected _ => .naming
  | notText .. | notNumber .. | outOfRange .. => .value
  | tooLarge => .overflow

/-- The wording of a refusal. -/
def message : SettingsError → String
  | repeated name => "setting '" ++ name ++ "' given more than once"
  | unexpected key =>
      if key = "self" then
        "Settings.__init__() got multiple values for argument 'self'"
      else
        "Settings.__init__() got an unexpected keyword argument '" ++ key ++ "'"
  | notText field value =>
      value.quotedAfter ("setting '" ++ field.name ++ "' must be a string, got ")
  | notNumber field value =>
      value.quotedAfter ("setting '" ++ field.name ++ "' must be a number, got ")
  | tooLarge => "int too large to convert to float"
  | outOfRange field low high value =>
      (Value.number value).quotedAfter ("setting '" ++ field.name ++ "' must be between " ++
        Number.intText low ++ " and " ++ Number.intText high ++ ", got ")

end SettingsError

namespace Entries

/-- The name that a key stands for: a field's camel-case name stands for its name. -/
def resolveKey (key : String) : String :=
  match Field.all.find? (·.camelName == key) with
  | some field => field.name
  | none => key

/-- Resolve all keys; the first key whose name was seen before is refused. -/
def resolve (seen : Entries) : Entries → Except SettingsError Entries
  | [] => .ok seen.reverse
  | (key, value) :: rest =>
      let name := resolveKey key
      if seen.any (·.1 == name) then .error (.repeated name)
      else resolve ((name, value) :: seen) rest

/-- Store an entry under its raw key: in its old place, or at the end. -/
def put (entries : Entries) (key : String) (value : Value) : Entries :=
  match entries with
  | [] => [(key, value)]
  | (oldKey, oldValue) :: rest =>
      if oldKey == key then (key, value) :: rest else (oldKey, oldValue) :: put rest key value

/-- Store entries one after the other. -/
def putAll (entries changes : Entries) : Entries :=
  changes.foldl (fun merged change => merged.put change.1 change.2) entries

end Entries

namespace Field

/-- Check a value against the kind of the field. -/
def check (field : Field) (value : Value) : Except SettingsError Unit :=
  if field.isLength then
    match value with
    | .number (.double x) => if x.isFinite then .ok () else .error (.notNumber field value)
    | .number (.int n) =>
        match (Number.int n).toBinary64? with
        | some _ => .ok ()
        | none => .error .tooLarge
    | _ => .error (.notNumber field value)
  else
    match value with
    | .text _ => .ok ()
    | _ => .error (.notText field value)

end Field

namespace Settings

/-- Check the given fields in field order. -/
def checkFields (named : Entries) : List Field → Except SettingsError Unit
  | [] => .ok ()
  | field :: fields =>
      match named.lookup field.name with
      | some value => do
          field.check value
          checkFields named fields
      | none => checkFields named fields

/-- The first name that is not a field's. -/
def firstUnexpected? (named : Entries) : Option String :=
  (named.find? fun entry => (Field.ofName? entry.1).isNone).map (·.1)

/-- Store every entry in the field that it names. -/
def store (settings : Settings) (named : Entries) : Settings :=
  named.foldl
    (fun settings entry =>
      match Field.ofName? entry.1 with
      | some field => field.put settings entry.2
      | none => settings)
    settings

/-- Merge named values into a snapshot. -/
def merge (base : Settings) (entries : Entries) : Except SettingsError Settings := do
  let named ← Entries.resolve [] entries
  checkFields named Field.all
  match firstUnexpected? named with
  | some key => throw (.unexpected key)
  | none => return base.store named

/-- Merge values and then changes, which replace values with the same key. -/
def update (current : Settings) (entries changes : Entries) : Except SettingsError Settings :=
  current.merge (Entries.putAll entries changes)

/-- Change the accent colour of headings and bold text. -/
def applyAccent (current : Settings) (colour : Value) : Except SettingsError Settings :=
  current.update [] [("heading_color", colour), ("bold_color", colour)]

/-! ## Ranges -/

/-- The ranged fields in the order in which they are checked, with their least
and greatest values. -/
def ranges : List (Field × Int × Int) :=
  [(.fontSize, 12, 20), (.codeMarginTop, 0, 50), (.codeMarginBottom, 0, 50)]

/-- The length that a snapshot holds in a field. -/
def length? (settings : Settings) (field : Field) : Option Number :=
  match field.get settings with
  | .number value => some value
  | _ => none

/-- Check the given ranges in order. -/
def checkRangesIn (settings : Settings) :
    List (Field × Int × Int) → Except SettingsError Unit
  | [] => .ok ()
  | (field, low, high) :: rest =>
      match settings.length? field with
      | some value =>
          if value.within low high then checkRangesIn settings rest
          else .error (.outOfRange field low high value)
      | none => checkRangesIn settings rest

/-- Check all ranged fields of a snapshot. -/
def checkRanges (settings : Settings) : Except SettingsError Unit :=
  settings.checkRangesIn ranges

end Settings

end Typeset
