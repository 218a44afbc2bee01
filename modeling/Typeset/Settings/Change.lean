import Typeset.Settings.Merge

/-!
# Changes of settings

Whoever owns a snapshot takes changes one after the other.  A change that is refused
leaves the snapshot as it was, and the next change starts from there.
-/

namespace Typeset.Settings

/-- A change of a snapshot. -/
inductive Change where
  /-- Merge values, and changes that replace values with the same key. -/
  | update (entries changes : Entries)
  /-- Change the accent colour of headings and bold text. -/
  | applyAccent (colour : Value)

/-- The snapshot that a change makes. -/
def apply (current : Settings) : Change → Except SettingsError Settings
  | .update entries changes => current.update entries changes
  | .applyAccent colour => current.applyAccent colour

/-- Make a change: why it was refused, if it was, and the snapshot afterwards. -/
def change (current : Settings) (change : Change) : Except SettingsError Unit × Settings :=
  match current.apply change with
  | .ok next => (.ok (), next)
  | .error error => (.error error, current)

/-- Make changes one after the other, also after one was refused. -/
def run (current : Settings) (changes : List Change) : Settings :=
  changes.foldl (fun current change => (current.change change).2) current

end Typeset.Settings
