import Typeset.Proofs.Cli.Failure
import Typeset.Proofs.Cli.Outputs

/-!
# Runs that crash

A run that has an outcome ends with 0, 1 or 2.  Five faults are not handled and leave a run
without an outcome: an integer in the settings file that overflows a double, the dropped
value of a ranged option, a null character in the name of an output, a status line that the
console refuses after the output was written, and a clipboard program that takes or prints
text in another encoding.  Each is told from the words and from what the run finds, and no
other fault escapes.
-/

namespace Typeset.Cli

variable {surroundings : Surroundings} {arguments : Arguments} {words : List String}
  {settings : Settings} {folder : Folder} {text : String} {outcome : Outcome}
  {session : Session} {crash : Crash}

/-! ## Ranged options -/

/-- The value of an option lies in its range, if the option is given. -/
def Arguments.Within (arguments : Arguments) (range : Field × Int × Int) : Prop :=
  ∀ value, arguments.field? range.1 = some value →
    ∃ number, value = .number number ∧ number.within range.2.1 range.2.2 = true

/-- The words are read, and they ask for an article. -/
structure Asks (words : List String) (arguments : Arguments) : Prop where
  read : Arguments.read words = .ok arguments
  renders : arguments.has .listPresets = false
  source : (given? arguments.source).isSome = true ∨ arguments.has .sample = true

theorem InOrder.asks (inOrder : InOrder surroundings words arguments settings text) :
    Asks words arguments :=
  ⟨inOrder.read, inOrder.renders, inOrder.source⟩

section Asks

variable (asks : Asks words arguments)

include asks

theorem Asks.hasSource :
    ((given? arguments.source).isNone && !arguments.has .sample) = false := by
  rw [Bool.and_eq_false_iff, Option.isNone_eq_false_iff, Bool.not_eq_false']
  exact asks.source

theorem Asks.run_of_ok (options : checkOptionRanges arguments Settings.ranges = .ok ()) :
    run surroundings words = typeset surroundings arguments := by
  simp only [run, asks.read, asks.renders, asks.hasSource, options, Bool.false_eq_true, if_false]

end Asks

/-- Why the inputs of a run are refused once its words are accepted. -/
inductive InputsFail (surroundings : Surroundings) (arguments : Arguments) : Failure → Prop where
  | settings {failure : Failure}
      (refused : layeredSettings surroundings.folder arguments = .error failure) :
      InputsFail surroundings arguments failure
  | text {settings : Settings} {failure : Failure}
      (accepted : layeredSettings surroundings.folder arguments = .ok settings)
      (unread : articleText surroundings arguments = .error failure) :
      InputsFail surroundings arguments failure

theorem isCrash_of_articleText {failure : Failure}
    (unread : articleText surroundings arguments = .error failure) : failure.isCrash = false := by
  unfold articleText at unread
  split at unread
  · cases unread
  · dsimp only at unread
    split at unread
    · cases unread
    · rcases bind_eq_error_iff.mp unread with missing | ⟨bytes, -, unread⟩
      · obtain ⟨error, -, rfl⟩ := mapError_eq_error_iff.mp missing
        rfl
      · rcases bind_eq_error_iff.mp unread with undecoded | ⟨chars, -, impossible⟩
        · obtain ⟨error, -, rfl⟩ := mapError_eq_error_iff.mp undecoded
          rfl
        · cases impossible

/-- Inputs fail with a fault that is not handled when the settings file overflows. -/
theorem InputsFail.isCrash_iff (valued : arguments.Valued) {failure : Failure}
    (fails : InputsFail surroundings arguments failure) :
    failure.isCrash = true ↔ Overflows surroundings.folder arguments := by
  cases fails with
  | settings refused => exact isCrash_iff_of_layeredSettings valued refused
  | text accepted unread =>
      obtain ⟨base, accented, based, -⟩ := layeredSettings_eq_ok_iff.mp accepted
      rw [isCrash_of_articleText unread]
      exact iff_of_false Bool.false_ne_true based.not_overflows

/-- With the settings of a run a session can always be opened. -/
theorem exists_start_eq_ok (layers : layeredSettings folder arguments = .ok settings)
    (text : String) : ∃ session, Session.start (.text text) settings = .ok session := by
  obtain ⟨-, checked, -⟩ := of_layeredSettings layers
  obtain ⟨session, refreshed, -⟩ :=
    @Session.exists_refresh_eq ⟨.text text, settings, "", ""⟩ checked.renderable
  exact ⟨session, by rw [Session.start, refreshed]; rfl⟩

theorem typeset_of_start {session : Session}
    (layers : layeredSettings surroundings.folder arguments = .ok settings)
    (read : articleText surroundings arguments = .ok text)
    (started : Session.start (.text text) settings = .ok session) :
    typeset surroundings arguments = finish surroundings arguments text session := by
  simp only [typeset, layers, read, started, bind, Except.bind, pure, Except.pure]

/-- A folder with a settings file, on a machine without a clipboard. -/
def settled (bytes : List UInt8) : Surroundings where
  folder := ⟨[(["s.json"], .file bytes)]⟩
  input := ""
  machine := .bare
  console := .plain

end Typeset.Cli
