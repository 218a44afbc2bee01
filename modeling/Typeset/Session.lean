import Typeset.Article
import Typeset.Settings.Merge
import Typeset.Stylesheet

/-!
# Editing sessions

A session holds a text and a snapshot of the settings, and both outputs.  Every
change assigns what it replaces and then refreshes both outputs, the style sheet
before the HTML.  Assignments are made one after the other, so a refusal leaves
those that were made before it.

While the text is not a text at all, the HTML stays what it was; the style sheet
always follows the settings.
-/

namespace Typeset

/-- The state of an editing session. -/
structure Session where
  text : Value
  settings : Settings
  stylesheet : String
  html : String

namespace Session

/-- Why a change was refused. -/
inductive Error where
  | settings (error : SettingsError)
  | rendering (error : RenderError)

/-- The wording of a refusal. -/
def Error.message : Error → String
  | settings error => error.message
  | rendering error => error.message

/-- Refresh both outputs: the HTML that is shown then, or why there is none, and
the state afterwards. -/
def refresh (session : Session) : Except RenderError String × Session :=
  match Stylesheet.ofSettings session.settings with
  | .error error => (.error error, session)
  | .ok stylesheet =>
      let styled := { session with stylesheet }
      match Article.html .builtin session.text session.settings with
      | .ok html => (.ok html, { styled with html })
      | .error (.notText _) => (.ok styled.html, styled)
      | .error (.rendering error) => (.error error, styled)

/-- Open a session. -/
def start (text : Value) (settings : Settings) : Except RenderError Session :=
  let (shown, session) := refresh { text, settings, stylesheet := "", html := "" }
  shown.map fun _ => session

/-- What is reported when a session has been rendered. -/
def notices (session : Session) : List String :=
  match session.text with
  | .text _ => []
  | _ => ["[ERROR] Markdown parse error, keeping previous output"]

/-! ## Changes -/

/-- The accent colour that a value stands for: the key of a preset stands for
its colour. -/
def accent (colour : Value) : Value :=
  match colour with
  | .text key =>
      match Preset.find? key with
      | some preset => .text preset.primary
      | none => colour
  | _ => colour

/-- A change of the text or the settings. -/
inductive Change where
  /-- Replace the text. -/
  | setText (text : Value)
  /-- Merge values, and changes that replace values with the same key. -/
  | update (entries changes : Entries)
  /-- Apply a preset or an accent colour. -/
  | applyAccent (colour : Value)

/-- Refresh a session in which a change has been assigned. -/
def finish (session : Session) : Except Error String × Session :=
  let (shown, next) := session.refresh
  (shown.mapError .rendering, next)

/-- Assign the outcome of a merge, unless it was refused, and refresh. -/
def assign (session : Session) (merged : Except SettingsError Settings) :
    Except Error String × Session :=
  match merged with
  | .error error => (.error (.settings error), session)
  | .ok settings => finish { session with settings }

/-- Make a change: the HTML that is shown then, or why it was refused, and the
state afterwards. -/
def change (session : Session) : Change → Except Error String × Session
  | .setText text => finish { session with text }
  | .update entries changes => session.assign (session.settings.update entries changes)
  | .applyAccent colour => session.assign (session.settings.applyAccent (accent colour))

/-- Make changes one after the other, also after one was refused. -/
def run (session : Session) (changes : List Change) : Session :=
  changes.foldl (fun session change => (session.change change).2) session

end Session

end Typeset
