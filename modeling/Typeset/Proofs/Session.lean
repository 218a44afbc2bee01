import Typeset.Session
import Typeset.Proofs.Article

/-!
# Runs of editing sessions

A session that could be opened stays current: its style sheet is that of its
settings, and its HTML shows the last text that was one.  Only a merge can refuse
a change, and then nothing has been assigned yet; once the settings are assigned
neither output can fail.
-/

namespace Typeset.Session

variable {session : Session}

/-- The text and the settings that the HTML is rendered from. -/
def source? (session : Session) : Option (String × Settings) :=
  match session.text with
  | .text markdown => some (markdown, session.settings)
  | _ => none

theorem source?_of_not_text (notText : ∀ markdown, session.text ≠ .text markdown) :
    session.source? = none := by
  unfold source?
  split
  · rename_i markdown text
    exact absurd text (notText markdown)
  · rfl

/-- Some HTML is that of a text with settings; without them it is empty. -/
def Shows (source : Option (String × Settings)) (html : String) : Prop :=
  match source with
  | some (markdown, settings) => Article.html .builtin (.text markdown) settings = .ok html
  | none => html = ""

/-- The style sheet is that of the settings. -/
def Current (session : Session) : Prop :=
  Stylesheet.ofSettings session.settings = .ok session.stylesheet

/-- A refreshed session has the same text and settings and is current, and shows
its text if that is one. -/
structure Refreshed (session next : Session) : Prop where
  text : next.text = session.text
  settings : next.settings = session.settings
  current : next.Current
  shows : ∀ source, Shows source session.html → Shows (next.source?.or source) next.html

theorem Current.renderable (current : session.Current) : session.settings.Renderable :=
  Stylesheet.exists_ofSettings_eq_ok_iff.mp ⟨_, current⟩

/-- A session is refreshed whenever its settings can be rendered. -/
theorem exists_refresh_eq (renderable : session.settings.Renderable) :
    ∃ next, session.refresh = (.ok next.html, next) ∧ session.Refreshed next := by
  obtain ⟨stylesheet, styled⟩ := Stylesheet.exists_ofSettings_eq_ok_iff.mpr renderable
  by_cases isText : ∃ markdown, session.text = .text markdown
  · obtain ⟨markdown, text⟩ := isText
    obtain ⟨content, rendered⟩ := Article.exists_body_eq_ok renderable markdown
    have shown := Article.html_text_eq_ok_iff.mpr ⟨content, rendered, rfl⟩
    refine ⟨{ session with stylesheet, html := Article.wrap content }, ?_, rfl, rfl, styled, ?_⟩
    · simp only [refresh, styled, text, shown]
    · intro source _
      simp only [source?, text, Option.some_or]
      exact shown
  · have notText : ∀ markdown, session.text ≠ .text markdown := not_exists.mp isText
    refine ⟨{ session with stylesheet }, ?_, rfl, rfl, styled, ?_⟩
    · simp only [refresh, styled, Article.html_of_not_text notText]
    · intro source shows
      have none : source? { session with stylesheet } = none := source?_of_not_text notText
      rw [none]
      exact shows

/-! ## Single changes -/

/-- The text that a change sets. -/
def Change.text? : Change → Option Value
  | .setText text => some text
  | _ => none

/-- The entries that a change merges into the settings. -/
def Change.requested : Change → Entries
  | .setText _ => []
  | .update entries changes => entries.putAll changes
  | .applyAccent colour => [("heading_color", accent colour), ("bold_color", accent colour)]

/-- A refused change: the merge was refused, and nothing is assigned. -/
structure Refuses (session : Session) (change : Change) (error : SettingsError) : Prop where
  text : change.text? = none
  merge : session.settings.merge change.requested = .error error
  outcome : session.change change = (.error (.settings error), session)

/-- A change that is made: its text and the merged settings are assigned, and both
outputs follow. -/
structure Makes (session : Session) (change : Change) (next : Session) : Prop where
  merge : session.settings.merge change.requested = .ok next.settings
  outcome : session.change change = (.ok next.html, next)
  text : next.text = change.text?.getD session.text
  current : next.Current
  shows : ∀ source, Shows source session.html → Shows (next.source?.or source) next.html

/-- Once a text and merged settings are assigned, nothing can fail. -/
theorem exists_makes (current : session.Current) {change : Change} {settings : Settings}
    (merged : session.settings.merge change.requested = .ok settings)
    (assigned : session.change change =
      finish { session with text := change.text?.getD session.text, settings }) :
    ∃ next, session.Makes change next := by
  have renderable := current.renderable.of_merge merged
  obtain ⟨next, refreshed, keeps⟩ := @exists_refresh_eq
    { session with text := change.text?.getD session.text, settings } renderable
  refine ⟨next, ?_, ?_, keeps.text, keeps.current, keeps.shows⟩
  · rw [merged, keeps.settings]
  · rw [assigned, finish, refreshed]
    rfl

/-- A change of a current session is refused with the refusal of its merge or it
is made. -/
theorem refuses_or_makes (current : session.Current) (change : Change) :
    (∃ error, session.Refuses change error) ∨ ∃ next, session.Makes change next := by
  cases change with
  | setText text => exact .inr (exists_makes current rfl rfl)
  | update entries changes =>
      cases merged : session.settings.update entries changes with
      | error error => exact .inl ⟨error, rfl, merged, by rw [change, merged, assign]⟩
      | ok settings => exact .inr (exists_makes current merged (by rw [change, merged]; rfl))
  | applyAccent colour =>
      cases merged : session.settings.applyAccent (accent colour) with
      | error error => exact .inl ⟨error, rfl, merged, by rw [change, merged, assign]⟩
      | ok settings => exact .inr (exists_makes current merged (by rw [change, merged]; rfl))

/-! ## Runs -/

/-- The states after the changes of a run that were not refused. -/
def made (session : Session) : List Change → List Session
  | [] => []
  | change :: changes =>
      match session.change change with
      | (.ok _, next) => next :: made next changes
      | (.error _, next) => made next changes

/-- The text that was set last. -/
def lastText? (changes : List Change) : Option Value :=
  changes.reverse.findSome? Change.text?

/-- The last text that was one, with the settings at that time. -/
def lastSource? (sessions : List Session) : Option (String × Settings) :=
  sessions.reverse.findSome? source?

theorem lastText?_cons (change : Change) (changes : List Change) :
    lastText? (change :: changes) = (lastText? changes).or change.text? := by
  simp [lastText?, List.findSome?_append]

theorem lastSource?_cons (session : Session) (sessions : List Session) :
    lastSource? (session :: sessions) = (lastSource? sessions).or session.source? := by
  simp [lastSource?, List.findSome?_append]

theorem run_cons (change : Change) (changes : List Change) :
    session.run (change :: changes) = (session.change change).2.run changes :=
  rfl

/-- What holds after a run, told from the text and the source before it. -/
structure Follows (session : Session) (changes : List Change) (last : Session) : Prop where
  text : last.text = (lastText? changes).getD session.text
  current : last.Current
  shows : ∀ source, Shows source session.html →
    Shows ((lastSource? (session.made changes)).or source) last.html

/-- A refused change is as if it had not been made. -/
theorem Refuses.follows {change : Change} {error : SettingsError} {changes : List Change}
    {last : Session} (refuses : session.Refuses change error)
    (follows : session.Follows changes last) : session.Follows (change :: changes) last where
  text := by
    rw [lastText?_cons, refuses.text, Option.or_none]
    exact follows.text
  current := follows.current
  shows := by
    rw [made, refuses.outcome]
    exact follows.shows

theorem Makes.follows {change : Change} {next last : Session} {changes : List Change}
    (makes : session.Makes change next) (follows : next.Follows changes last) :
    session.Follows (change :: changes) last where
  text := by
    rw [lastText?_cons, follows.text, makes.text]
    cases lastText? changes <;> rfl
  current := follows.current
  shows := by
    intro source shows
    rw [made, makes.outcome]
    simp only [lastSource?_cons, Option.or_assoc]
    exact follows.shows _ (makes.shows source shows)

theorem follows_run (current : session.Current) (changes : List Change) :
    session.Follows changes (session.run changes) := by
  induction changes generalizing session with
  | nil => exact ⟨rfl, current, fun _ shows => shows⟩
  | cons change changes ih =>
      rw [run_cons]
      rcases refuses_or_makes current change with ⟨error, refuses⟩ | ⟨next, makes⟩
      · rw [refuses.outcome]
        exact refuses.follows (ih current)
      · rw [makes.outcome]
        exact makes.follows (ih makes.current)

/-- A session that could be opened is current and shows its text if that is one. -/
theorem start_eq_ok {text : Value} {settings : Settings} {first : Session}
    (started : start text settings = .ok first) :
    first.text = text ∧ first.settings = settings ∧ first.Current ∧
      Shows first.source? first.html := by
  have renderable : settings.Renderable := by
    cases styled : Stylesheet.ofSettings settings with
    | error error => simp [start, refresh, styled, Except.map] at started
    | ok stylesheet => exact Stylesheet.exists_ofSettings_eq_ok_iff.mp ⟨stylesheet, styled⟩
  obtain ⟨next, refreshed, keeps⟩ := @exists_refresh_eq ⟨text, settings, "", ""⟩ renderable
  have opened : start text settings = .ok next := by
    rw [start, refreshed]
    rfl
  cases started.symm.trans opened
  refine ⟨keeps.text, keeps.settings, keeps.current, ?_⟩
  simpa using keeps.shows none rfl

/-- After every run of changes the text is the one that was set last, the style
sheet is that of the settings, and the HTML shows the last text that was one with
the settings of that time.  The next change gives the HTML that is shown then, or
is refused because its merge is and changes nothing. -/
theorem run_of_start {text : Value} {settings : Settings} {first : Session}
    (started : start text settings = .ok first) (changes : List Change) :
    let last := first.run changes
    last.text = (lastText? changes).getD text ∧
    Stylesheet.ofSettings last.settings = .ok last.stylesheet ∧
    Shows (lastSource? (first :: first.made changes)) last.html ∧
    (∀ value, ∃ html, (last.change (.setText value)).1 = .ok html) ∧
    ∀ change,
      (∀ html, (last.change change).1 = .ok html → (last.change change).2.html = html) ∧
      (∀ error, (last.change change).1 = .error error ↔
        ∃ fault, error = .settings fault ∧ last.settings.merge change.requested = .error fault) ∧
      (∀ error, (last.change change).1 = .error error → (last.change change).2 = last) ∧
      ∀ merged, last.settings.merge change.requested = .ok merged →
        (last.change change).2.settings = merged := by
  obtain ⟨textIs, -, current, shows⟩ := start_eq_ok started
  have follows := follows_run current changes
  intro last
  refine ⟨?_, follows.current, ?_, ?_, ?_⟩
  · rw [← textIs]
    exact follows.text
  · rw [lastSource?_cons]
    exact follows.shows first.source? shows
  · intro value
    rcases refuses_or_makes follows.current (.setText value) with ⟨error, refuses⟩ | ⟨next, makes⟩
    · cases refuses.text
    · exact ⟨next.html, by rw [makes.outcome]⟩
  · intro change
    rcases refuses_or_makes follows.current change with ⟨fault, refuses⟩ | ⟨next, makes⟩
    · rw [refuses.outcome, refuses.merge]
      refine ⟨by simp, ?_, fun _ _ => rfl, by simp⟩
      intro error
      constructor
      · rintro ⟨rfl⟩
        exact ⟨fault, rfl, rfl⟩
      · rintro ⟨other, rfl, same⟩
        cases same
        rfl
    · rw [makes.outcome, makes.merge]
      simp

theorem run_of_start_unparsed :
    ∃ first, start (.text "# <b>") {} = .ok first ∧
      (first.run [.setText .null, .update [("fontSize", .text "18")] [],
        .applyAccent (.text "red")]).text = .null := by
  have opens : (start (.text "# <b>") {}).isOk = true := by decide +kernel
  obtain ⟨first, started⟩ := isOk_iff.mp opens
  exact ⟨first, started, (run_of_start started _).1⟩

end Typeset.Session
