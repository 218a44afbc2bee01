import Typeset.Proofs.Cli.Crash

/-!
# What a run tells of its files

The lines for the user are only ever added to.  A file that was written is told by its name,
and a name in which nothing is read as markup stands in the line as it was given, if the line
fits.  Names are not protected from being read as markup, so others may be told differently.

Main statement: `written_names_shown`.
-/

namespace Typeset.Cli

variable {surroundings : Surroundings} {arguments : Arguments} {folder next middle : Folder}
  {said name text : String} {before after outcome : Outcome} {session : Session}
  {reporter : Status.Reporter} {console : Status.Console}

/-! ## Lines are kept -/

/-- What an output leaves behind, whether or not it ends the run. -/
def reachedBy : Except Outcome Outcome → Outcome
  | .ok outcome => outcome
  | .error ended => ended

/-- An output that ends the run keeps the lines of those before it. -/
theorem notices_prefix_of_writeStylesheet {result : Except Outcome Outcome}
    (reached : writeStylesheet arguments reporter session before = .ok result) :
    before.notices <+: (reachedBy result).notices := by
  unfold writeStylesheet at reached
  split at reached
  · cases reached
    exact List.prefix_rfl
  · unfold writeFile at reached
    split at reached
    · rcases map_eq_ok_iff.mp reached with ⟨after, reported, rfl⟩
      rcases exists_notify_of_report reported with ⟨lines, rfl⟩
      exact List.prefix_append ..
    · cases reached
    · cases reached
      exact List.prefix_append ..

theorem notices_prefix_of_copyHtml {machine : Clipboard.Machine}
    (copied : copyHtml arguments machine reporter session before = .ok after) :
    before.notices <+: after.notices := by
  unfold copyHtml at copied
  split at copied
  · rcases bind_eq_ok_iff.mp copied with ⟨copy, -, copied⟩
    rcases exists_notify_of_report copied with ⟨lines, rfl⟩
    exact (List.prefix_append ..).trans (List.prefix_append ..)
  · cases copied
    exact List.prefix_rfl

/-! ## Files are told -/

/-- A file is told by what the console prints of its name: the name as it was given, if nothing
in it is read as markup and the line fits. -/
def Tells (console : Status.Console) (said : String) (name : Option String)
    (outcome : Outcome) : Prop :=
  ∀ given, name = some given → ∃ line, console.print (said ++ given) = .ok line ∧
    line ∈ outcome.notices ∧
    (Status.Plain given.toList → console.Fits (said ++ given).toList → line = said ++ given)

theorem ordinary_html : Status.Ordinary "Wrote HTML to ".toList := by
  decide

theorem ordinary_stylesheet : Status.Ordinary "Wrote Obsidian CSS snippet to ".toList := by
  decide

theorem plain_said (ordinary : Status.Ordinary said.toList) (plain : Status.Plain name.toList) :
    Status.Plain (said ++ name).toList := by
  rw [String.toList_append]
  exact plain.append ordinary

theorem tells_of_writeFile (follows : reporter.console.Follows) (loud : reporter.quiet = false)
    (ordinary : Status.Ordinary said.toList)
    (reached : writeFile before name text reporter (.info (said ++ name)) = .ok (.ok after)) :
    Tells reporter.console said (some name) after := by
  rintro given ⟨rfl⟩
  unfold writeFile at reached
  split at reached
  · rcases map_eq_ok_iff.mp reached with ⟨told, reported, same⟩
    cases same
    rcases bind_eq_ok_iff.mp reported with ⟨lines, told, noted⟩
    cases noted
    have told := mapError_eq_ok_iff.mp told
    rw [Status.Reporter.report_info_of_loud loud] at told
    rcases map_eq_ok_iff.mp told with ⟨line, printed, rfl⟩
    refine ⟨line, printed, List.mem_append_right _ (List.mem_singleton_self _), ?_⟩
    intro plain fits
    have whole := follows.print_of_plain (plain_said ordinary plain) fits
    exact Except.ok.inj (printed.symm.trans whole)
  · cases reached
  · cases reached

theorem tells_of_writeHtml (follows : reporter.console.Follows) (loud : reporter.quiet = false)
    (reached : writeHtml arguments reporter session before = .ok (.ok after)) :
    Tells reporter.console "Wrote HTML to " (given? arguments.output) after := by
  unfold writeHtml at reached
  split at reached
  · rename_i unnamed
    rw [unnamed]
    exact nofun
  · rename_i name named
    rw [named]
    exact tells_of_writeFile follows loud ordinary_html reached

theorem tells_of_writeStylesheet (follows : reporter.console.Follows)
    (loud : reporter.quiet = false)
    (reached : writeStylesheet arguments reporter session before = .ok (.ok after)) :
    Tells reporter.console "Wrote Obsidian CSS snippet to " (given? arguments.stylesheet)
      after := by
  unfold writeStylesheet at reached
  split at reached
  · rename_i unnamed
    rw [unnamed]
    exact nofun
  · rename_i name named
    rw [named]
    exact tells_of_writeFile follows loud ordinary_stylesheet reached

theorem Tells.mono {name : Option String} (tells : Tells console said name before)
    (kept : before.notices <+: after.notices) : Tells console said name after := by
  intro given named
  rcases tells given named with ⟨line, printed, member, whole⟩
  exact ⟨line, printed, kept.subset member, whole⟩

/-- All files that were written are told when a session is written. -/
theorem tells_of_finish (follows : surroundings.console.Follows)
    (loud : arguments.has .quiet = false)
    (finished : finish surroundings arguments text session = .ok outcome)
    (stores : Stores (given? arguments.output) session.html surroundings.folder middle) :
    Tells surroundings.console "Wrote HTML to " (given? arguments.output) outcome ∧
      ∀ last, Stores (given? arguments.stylesheet) session.stylesheet middle last →
        Tells surroundings.console "Wrote Obsidian CSS snippet to " (given? arguments.stylesheet)
          outcome := by
  rcases bind_eq_ok_iff.mp finished with ⟨first, reached, finished⟩
  rcases ends_writeHtml reached with ⟨written, rfl, delivers, -⟩ | ⟨ended, rfl, -, unwritable⟩
  · have tells := tells_of_writeHtml follows loud reached
    rcases bind_eq_ok_iff.mp finished with ⟨second, reachedSecond, finished⟩
    rcases ends_writeStylesheet reachedSecond with
      ⟨styled, rfl, -, -⟩ | ⟨ended, rfl, -, unwritable⟩
    · have tellsSecond := tells_of_writeStylesheet follows loud reachedSecond
      have kept := notices_prefix_of_copyHtml finished
      constructor
      · exact tells.mono ((notices_prefix_of_writeStylesheet reachedSecond).trans kept)
      · exact fun _ _ => tellsSecond.mono kept
    · cases finished
      constructor
      · exact tells.mono (notices_prefix_of_writeStylesheet reachedSecond)
      · intro last storesSecond
        rw [delivers.stores.unique stores] at unwritable
        exact absurd unwritable storesSecond.not_unwritable
  · exact absurd unwritable stores.not_unwritable

/-- A file that can be written and has a name that is no markup does not break a run. -/
theorem not_breaks_of_plain {crash : Crash} (follows : reporter.console.Follows)
    (ordinary : Status.Ordinary said.toList) (stores : Stores (some name) text folder next)
    (plain : Status.Plain name.toList) : ¬Breaks reporter said name text folder crash :=
  not_breaks follows stores.null_not_mem (plain_said ordinary plain).untagged

/-- If a file has a name, nothing in it is read as markup. -/
def PlainName (name : Option String) : Prop :=
  ∀ given, name = some given → Status.Plain given.toList

theorem exists_finish_eq_ok {last : Folder} (follows : surroundings.console.Follows)
    (readable : arguments.has .copy = true →
      ∀ reason, surroundings.machine.ending ≠ .garbled reason)
    (plainOutput : PlainName (given? arguments.output))
    (plainStylesheet : PlainName (given? arguments.stylesheet))
    (stores : Stores (given? arguments.output) session.html surroundings.folder middle)
    (storesSecond : Stores (given? arguments.stylesheet) session.stylesheet middle last) :
    ∃ outcome, finish surroundings arguments text session = .ok outcome := by
  have followsReporter : (reporterOf surroundings arguments).console.Follows := follows
  cases finished : finish surroundings arguments text session with
  | ok outcome => exact ⟨outcome, rfl⟩
  | error crash =>
      cases finish_eq_error_iff.mp finished with
      | html broken =>
          rcases broken with ⟨name, named, broken⟩
          rw [named] at stores
          exact absurd broken
            (not_breaks_of_plain followsReporter ordinary_html stores (plainOutput name named))
      | stylesheet whole storesFirst broken =>
          rcases broken with ⟨name, named, broken⟩
          rw [named] at storesSecond
          rw [storesFirst.unique stores] at broken
          exact absurd broken (not_breaks_of_plain followsReporter ordinary_stylesheet
            storesSecond (plainStylesheet name named))
      | copy whole storesFirst wholeSecond storesLast asked broken =>
          exact absurd broken (not_copyBreaks followsReporter (readable asked))

/-- What a console that follows the markup prints of information, and what a run tells of the
files that it writes.  Information is not told when a run is quiet.  Else it is printed as it is
if nothing in it is read as markup and it fits; without a colon and with tags that are known,
only then if it fits.  If no known tag in it closes, it is not refused.  A run that is not quiet
tells each file that it writes by what the console prints of its name, which is the name as it
was given if that is no markup and fits; and names that are no markup do not break a run. -/
theorem written_names_shown (follows : console.Follows) :
    (∀ message, (⟨true, console⟩ : Status.Reporter).report (.info message) = .ok []) ∧
    (∀ message, Status.IsRead message → Status.Markup.ClosesNothing message.toList →
      ∃ lines, (⟨false, console⟩ : Status.Reporter).report (.info message) = .ok lines) ∧
    (∀ message, Status.Plain message.toList → console.Fits message.toList →
      (⟨false, console⟩ : Status.Reporter).report (.info message) = .ok [message]) ∧
    (∀ message, Status.IsRead message → console.Fits message.toList → ':' ∉ message.toList →
      ((⟨false, console⟩ : Status.Reporter).report (.info message) = .ok [message] ↔
        Status.Plain message.toList)) ∧
    ∀ surroundings words arguments settings text session middle,
      surroundings.console = console → InOrder surroundings words arguments settings text →
      Session.start (.text text) settings = .ok session →
      arguments.has .quiet = false →
      Stores (given? arguments.output) session.html surroundings.folder middle →
      (∀ outcome, run surroundings words = .ok outcome →
        Tells console "Wrote HTML to " (given? arguments.output) outcome ∧
        ∀ last, Stores (given? arguments.stylesheet) session.stylesheet middle last →
          Tells console "Wrote Obsidian CSS snippet to " (given? arguments.stylesheet)
            outcome) ∧
      ∀ last, Stores (given? arguments.stylesheet) session.stylesheet middle last →
        PlainName (given? arguments.output) → PlainName (given? arguments.stylesheet) →
        (arguments.has .copy = true → ∀ reason, surroundings.machine.ending ≠ .garbled reason) →
        ∃ outcome, run surroundings words = .ok outcome := by
  refine ⟨fun _ => rfl, ?_, ?_, ?_, ?_⟩
  · intro message isRead closesNothing
    exact @Status.Reporter.exists_report_eq_ok ⟨false, console⟩ _ follows _ rfl isRead
      (Status.exists_shown_of_closesNothing closesNothing)
  · intro message plain fits
    exact (Status.Reporter.report_info_eq_self_iff rfl).mpr (follows.print_of_plain plain fits)
  · intro message isRead fits noColon
    rw [Status.Reporter.report_info_eq_self_iff rfl]
    exact follows.print_eq_self_iff isRead fits noColon
  · rintro surroundings words arguments settings text session middle rfl inOrder started loud stores
    have finishes : run surroundings words = finish surroundings arguments text session := by
      rw [inOrder.asks.run_of_ok inOrder.options]
      exact typeset_of_start inOrder.settings inOrder.text started
    rw [finishes]
    constructor
    · intro outcome finished
      exact tells_of_finish follows loud finished stores
    · intro last storesSecond plainOutput plainStylesheet readable
      exact exists_finish_eq_ok follows readable plainOutput plainStylesheet stores storesSecond

/-- An empty folder, on a machine without a clipboard. -/
def emptyPlace : Surroundings where
  folder := ⟨[]⟩
  input := ""
  machine := .bare
  console := .plain

/-- Words that ask for the sample article in two files. -/
def keepingWords : List String :=
  ["--sample", "-o", "a b.html", "--css", "c.css"]

/-- What the words ask for. -/
def keepingArguments : Arguments where
  output := some "a b.html"
  stylesheet := some "c.css"
  switches := [.sample]

theorem written_names_shown_sample :
    ∃ outcome, run emptyPlace keepingWords = .ok outcome ∧
      "Wrote HTML to a b.html" ∈ outcome.notices ∧
      "Wrote Obsidian CSS snippet to c.css" ∈ outcome.notices := by
  have plainOutput : PlainName (some "a b.html") := by
    rintro name ⟨rfl⟩
    exact Status.Ordinary.plain (by decide)
  have plainStylesheet : PlainName (some "c.css") := by
    rintro name ⟨rfl⟩
    exact Status.Ordinary.plain (by decide)
  have layers : layeredSettings emptyPlace.folder keepingArguments = .ok {} :=
    toOption_eq_some_iff.mp (by decide +kernel)
  have inOrder : InOrder emptyPlace keepingWords keepingArguments {} sampleArticle :=
    ⟨rfl, rfl, .inr rfl, rfl, layers, rfl⟩
  rcases exists_start_eq_ok layers sampleArticle with ⟨session, started⟩
  let middle : Folder := ⟨[(["a b.html"], .file session.html.toUTF8.toList)]⟩
  let last : Folder := ⟨middle.entries ++ [(["c.css"], .file session.stylesheet.toUTF8.toList)]⟩
  have stores : Stores (some "a b.html") session.html emptyPlace.folder middle := rfl
  have storesSecond : Stores (some "c.css") session.stylesheet middle last := rfl
  rcases (written_names_shown Status.Console.plain_follows).2.2.2.2 emptyPlace keepingWords
    keepingArguments {} sampleArticle session middle rfl inOrder started rfl stores with
    ⟨tells, ends⟩
  have readable : keepingArguments.has .copy = true →
      ∀ reason, emptyPlace.machine.ending ≠ .garbled reason :=
    fun asked => absurd asked (by decide)
  rcases ends last storesSecond plainOutput plainStylesheet readable with ⟨outcome, ran⟩
  rcases tells outcome ran with ⟨tellsOutput, tellsStylesheet⟩
  rcases tellsOutput "a b.html" rfl with ⟨line, -, member, whole⟩
  rcases tellsStylesheet last storesSecond "c.css" rfl with ⟨next, -, nextMember, nextWhole⟩
  refine ⟨outcome, ran, ?_, ?_⟩
  · rwa [whole (plainOutput _ rfl) (by decide)] at member
  · rwa [nextWhole (plainStylesheet _ rfl) (by decide)] at nextMember

/-- A folder with an article, on a machine without a clipboard. -/
def ruledPlace : Surroundings where
  folder := ⟨[(["a.md"], .file "---\n".toUTF8.toList)]⟩
  input := ""
  machine := .bare
  console := .plain

/-- A file that is written to `a[b].html` is told by another name, as `[b]` is a tag. -/
theorem written_name_not_shown :
    ∃ outcome, run ruledPlace ["a.md", "-o", "a[b].html"] = .ok outcome ∧
      (outcome.folder.find? ["a[b].html"]).isSome = true ∧
      outcome.notices = ["Wrote HTML to a.html"] := by
  have evaluated : ((run ruledPlace ["a.md", "-o", "a[b].html"]).toOption.map fun outcome =>
      ((outcome.folder.find? ["a[b].html"]).isSome, outcome.notices)) =
        some (true, ["Wrote HTML to a.html"]) := by decide +kernel
  rcases Option.map_eq_some_iff.mp evaluated with ⟨outcome, found, told⟩
  rcases Prod.mk.inj told with ⟨written, notices⟩
  exact ⟨outcome, toOption_eq_some_iff.mp found, written, notices⟩

end Typeset.Cli
