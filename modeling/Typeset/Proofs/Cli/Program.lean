import Typeset.Proofs.Cli.Layers
import Typeset.Proofs.File.Folder
import Typeset.Proofs.Session

/-!
# What a run writes

A run first puts its inputs in order: the command line, the settings and the text.  If
one of them is refused the run ends with 2 and writes nothing.  Otherwise the HTML goes
to its file or to the standard output, the style sheet to its file if it has one, and
the HTML to the clipboard if that is asked for.
-/

namespace Typeset

/-! ## The clipboard -/

namespace Clipboard.Machine

variable {machine : Machine} {text reason : String} {copy : Copy}

theorem calls_of_copy (copied : machine.copy text = .ok copy) :
    copy.calls = (machine.command?.map fun command => ⟨command, text⟩).toList := by
  unfold Machine.copy at copied
  split at copied
  · rename_i none
    cases copied
    rw [none]
    rfl
  · rename_i command found
    rw [found]
    split at copied
    · cases copied
      rfl
    · cases copied
      rfl
    · cases copied

/-- Copying succeeds when there is a program that accepts the text. -/
theorem copied_iff_of_copy (copied : machine.copy text = .ok copy) :
    copy.copied = true ↔ machine.command?.isSome = true ∧ machine.ending = .accepted := by
  unfold Machine.copy at copied
  split at copied
  · rename_i none
    cases copied
    simp [none]
  · rename_i command found
    rw [found]
    split at copied
    · rename_i accepted
      cases copied
      simp [accepted]
    · rename_i failure failed
      cases copied
      simp [failed]
    · cases copied

/-- There is no result when there is a program and what it takes or prints is garbled. -/
theorem copy_eq_error_iff :
    machine.copy text = .error reason ↔
      machine.command?.isSome = true ∧ machine.ending = .garbled reason := by
  unfold copy
  cases machine.command? with
  | none => simp
  | some command => cases machine.ending <;> simp

end Clipboard.Machine

namespace Cli

variable {surroundings : Surroundings} {arguments : Arguments} {words : List String}
  {settings : Settings} {text html css : String} {before outcome after ended : Outcome}
  {reporter : Status.Reporter}

/-! ## The text -/

/-- The text of a run is the sample article if that is asked for, else the standard input
or the text of a file. -/
def IsArticle (surroundings : Surroundings) (arguments : Arguments) (text : String) : Prop :=
  if arguments.has .sample = true then text = sampleArticle
  else if arguments.source = some "-" then text = surroundings.input
  else
    ∃ name bytes chars, arguments.source = some name ∧
      surroundings.folder.read (FilePath.ofString name) = .ok bytes ∧
      Settings.decodeText bytes = .ok chars ∧ text = String.ofList chars

theorem isArticle_of_articleText
    (source : (given? arguments.source).isSome = true ∨ arguments.has .sample = true)
    (read : articleText surroundings arguments = .ok text) :
    IsArticle surroundings arguments text := by
  unfold articleText at read
  unfold IsArticle
  split
  · rename_i sample
    rw [if_pos sample] at read
    cases read
    rfl
  · rename_i noSample
    rw [if_neg noSample] at read
    obtain ⟨name, given⟩ : ∃ name, arguments.source = some name := by
      rcases source with given | sample
      · cases named : arguments.source with
        | none => simp [given?, named] at given
        | some name => exact ⟨name, rfl⟩
      · exact absurd sample noSample
    simp only [given, Option.getD_some] at read
    split
    · rename_i isInput
      rw [if_pos (Option.some.inj (given.symm.trans isInput))] at read
      cases read
      rfl
    · rename_i notInput
      rw [if_neg fun isInput => notInput (given.trans (congrArg some isInput))] at read
      obtain ⟨bytes, found, read⟩ := bind_eq_ok_iff.mp read
      obtain ⟨chars, decoded, written⟩ := bind_eq_ok_iff.mp read
      cases written
      exact ⟨name, bytes, chars, given, mapError_eq_ok_iff.mp found, mapError_eq_ok_iff.mp decoded,
        rfl⟩

/-! ## Single outputs -/

/-- The place of a file that an option names. -/
def placeOf (name : String) : Place :=
  (FilePath.ofString name).trail.2

/-- A status line changes nothing but the lines for the user. -/
theorem exists_notify_of_report {line : Status.Line}
    (reported : before.report reporter line = .ok after) :
    ∃ lines, after = before.notify lines := by
  obtain ⟨lines, -, noted⟩ := bind_eq_ok_iff.mp reported
  cases noted
  exact ⟨lines, rfl⟩

/-- A text is written to a file that has a name; without one the folder is the same. -/
def Stores (name : Option String) (text : String) (folder next : Folder) : Prop :=
  match name with
  | none => next = folder
  | some name => folder.write (FilePath.ofString name) text.toUTF8.toList = .ok next

/-- A text cannot be written to the file that has a name. -/
def Unwritable (name : Option String) (text : String) (folder : Folder) : Prop :=
  ∃ given error, name = some given ∧
    folder.write (FilePath.ofString given) text.toUTF8.toList = .error error

/-- What an output changes, apart from the lines for the user. -/
structure Delivers (name : Option String) (text : String) (before after : Outcome) : Prop where
  exit : after.exit = before.exit
  copies : after.copies = before.copies
  stores : Stores name text before.folder after.folder

/-- The two ways in which an output ends: it is written, or it ends the run. -/
def Ends (name : Option String) (text shown : String) (before : Outcome)
    (result : Except Outcome Outcome) : Prop :=
  (∃ after, result = .ok after ∧ Delivers name text before after ∧
    after.output = before.output ++ shown) ∨
  ∃ ended, result = .error ended ∧ ended.exit = 2 ∧ Unwritable name text before.folder

/-- A file that is written and then reported. -/
theorem ends_writeFile {name : String} {line : Status.Line} {result : Except Outcome Outcome}
    (reached : writeFile before name text reporter line = .ok result) :
    Ends (some name) text "" before result := by
  unfold writeFile at reached
  split at reached
  · rename_i folder stored
    obtain ⟨after, reported, rfl⟩ := map_eq_ok_iff.mp reached
    obtain ⟨lines, rfl⟩ := exists_notify_of_report reported
    exact .inl ⟨_, rfl, ⟨rfl, rfl, stored⟩, String.append_empty.symm⟩
  · contradiction
  · rename_i error _ stored
    cases reached
    exact .inr ⟨_, rfl, rfl, name, error, rfl, stored⟩

theorem ends_writeHtml {session : Session} {result : Except Outcome Outcome}
    (reached : writeHtml arguments reporter session before = .ok result) :
    Ends (given? arguments.output) session.html
      (if (given? arguments.output).isNone then session.html ++ "\n" else "") before result := by
  unfold writeHtml at reached
  cases named : given? arguments.output with
  | none =>
      rw [named] at reached
      cases reached
      exact .inl ⟨_, rfl, ⟨rfl, rfl, rfl⟩, String.append_assoc ..⟩
  | some name =>
      rw [named] at reached
      exact ends_writeFile reached

theorem ends_writeStylesheet {session : Session} {result : Except Outcome Outcome}
    (reached : writeStylesheet arguments reporter session before = .ok result) :
    Ends (given? arguments.stylesheet) session.stylesheet "" before result := by
  unfold writeStylesheet at reached
  cases named : given? arguments.stylesheet with
  | none =>
      rw [named] at reached
      cases reached
      exact .inl ⟨_, rfl, ⟨rfl, rfl, rfl⟩, String.append_empty.symm⟩
  | some name =>
      rw [named] at reached
      exact ends_writeFile reached

/-- The runs of the clipboard program: one with the HTML, if it is asked for and there is
a program. -/
def copiesOf (arguments : Arguments) (machine : Clipboard.Machine) (html : String) :
    List Clipboard.Call :=
  if arguments.has .copy then
    (machine.command?.map fun command => ⟨command, html⟩).toList
  else []

/-- Whether the HTML should be on the clipboard and is not. -/
def CopyFails (arguments : Arguments) (machine : Clipboard.Machine) : Prop :=
  arguments.has .copy = true ∧ ¬(machine.command?.isSome = true ∧ machine.ending = .accepted)

theorem of_copyHtml {machine : Clipboard.Machine} {session : Session}
    (fresh : before.exit = 0 ∧ before.copies = [])
    (copied : copyHtml arguments machine reporter session before = .ok after) :
    after.folder = before.folder ∧ after.output = before.output ∧
      after.copies = copiesOf arguments machine session.html ∧
      (after.exit = 1 ∧ CopyFails arguments machine ∨
        after.exit = 0 ∧ ¬CopyFails arguments machine) := by
  unfold copyHtml at copied
  cases asked : arguments.has .copy with
  | false =>
      simp only [asked, Bool.false_eq_true, if_false] at copied
      cases copied
      exact ⟨rfl, rfl, by simp [copiesOf, asked, fresh.2],
        .inr ⟨fresh.1, by simp [CopyFails, asked]⟩⟩
  | true =>
      simp only [asked, if_true] at copied
      obtain ⟨copy, reached, copied⟩ := bind_eq_ok_iff.mp copied
      have reached := mapError_eq_ok_iff.mp reached
      obtain ⟨lines, rfl⟩ := exists_notify_of_report copied
      refine ⟨rfl, rfl, ?_, ?_⟩
      · simp [copiesOf, asked, Outcome.notify, Clipboard.Machine.calls_of_copy reached]
      · have copiedIff := Clipboard.Machine.copied_iff_of_copy reached
        cases succeeded : copy.copied with
        | true =>
            exact .inr ⟨by simp [Outcome.notify], fun fails => fails.2 (copiedIff.mp succeeded)⟩
        | false =>
            rw [succeeded] at copiedIff
            exact .inl ⟨by simp [Outcome.notify], asked, by simpa using copiedIff⟩

/-! ## All outputs -/

/-- What a run with all its outputs leaves behind. -/
structure Writes (surroundings : Surroundings) (arguments : Arguments) (html css : String)
    (outcome : Outcome) : Prop where
  stores : ∃ middle, Stores (given? arguments.output) html surroundings.folder middle ∧
    Stores (given? arguments.stylesheet) css middle outcome.folder
  output : outcome.output = if (given? arguments.output).isNone then html ++ "\n" else ""
  copies : outcome.copies = copiesOf arguments surroundings.machine html
  exit : outcome.exit = 1 ∧ CopyFails arguments surroundings.machine ∨
    outcome.exit = 0 ∧ ¬CopyFails arguments surroundings.machine

/-- One of the two files cannot be written. -/
def WriteFails (folder : Folder) (arguments : Arguments) (html css : String) : Prop :=
  Unwritable (given? arguments.output) html folder ∨
    ∃ middle, Stores (given? arguments.output) html folder middle ∧
      Unwritable (given? arguments.stylesheet) css middle

/-- A session is written with all outputs, or a file cannot be written. -/
theorem writes_or_fails_of_finish {session : Session}
    (finished : finish surroundings arguments text session = .ok outcome) :
    Writes surroundings arguments session.html session.stylesheet outcome ∨
      outcome.exit = 2 ∧
        WriteFails surroundings.folder arguments session.html session.stylesheet := by
  obtain ⟨first, reachedFirst, finished⟩ := bind_eq_ok_iff.mp finished
  rcases ends_writeHtml reachedFirst with
    ⟨middle, rfl, delivers, output⟩ | ⟨ended, rfl, exit, unwritable⟩
  · obtain ⟨second, reachedSecond, finished⟩ := bind_eq_ok_iff.mp finished
    rcases ends_writeStylesheet reachedSecond with
      ⟨last, rfl, deliversNext, outputNext⟩ | ⟨ended, rfl, exit, unwritable⟩
    · left
      have fresh : last.exit = 0 ∧ last.copies = [] := by
        rw [deliversNext.exit, deliversNext.copies, delivers.exit, delivers.copies]
        exact ⟨rfl, rfl⟩
      obtain ⟨folder, shown, copies, exit⟩ := of_copyHtml fresh finished
      refine ⟨⟨middle.folder, delivers.stores, ?_⟩, ?_, copies, exit⟩
      · rw [folder]
        exact deliversNext.stores
      · rw [shown, outputNext, output]
        simp [Outcome.early]
    · cases finished
      exact .inr ⟨exit, .inr ⟨middle.folder, delivers.stores, unwritable⟩⟩
  · cases finished
    exact .inr ⟨exit, .inl unwritable⟩

/-! ## Runs -/

/-- The inputs of a run are in order: nothing is refused before the outputs. -/
structure InOrder (surroundings : Surroundings) (words : List String) (arguments : Arguments)
    (settings : Settings) (text : String) : Prop where
  read : Arguments.read words = .ok arguments
  renders : arguments.has .listPresets = false
  source : (given? arguments.source).isSome = true ∨ arguments.has .sample = true
  options : checkOptionRanges arguments Settings.ranges = .ok ()
  settings : layeredSettings surroundings.folder arguments = .ok settings
  text : articleText surroundings arguments = .ok text

/-- Nothing is written. -/
structure Untouched (surroundings : Surroundings) (outcome : Outcome) : Prop where
  output : outcome.output = ""
  folder : outcome.folder = surroundings.folder
  copies : outcome.copies = []

/-- Once the command line is accepted, the settings or the text are refused or an article
is rendered. -/
theorem typeset_cases (ran : typeset surroundings arguments = .ok outcome) :
    (outcome.exit = 2 ∧ Untouched surroundings outcome ∧
      ∀ settings text, layeredSettings surroundings.folder arguments = .ok settings →
        articleText surroundings arguments ≠ .ok text) ∨
    ∃ settings text session, layeredSettings surroundings.folder arguments = .ok settings ∧
      articleText surroundings arguments = .ok text ∧
      Session.start (.text text) settings = .ok session ∧
      finish surroundings arguments text session = .ok outcome := by
  simp only [typeset] at ran
  split at ran
  · rename_i failure inputs
    left
    split at ran
    · contradiction
    · cases ran
      refine ⟨rfl, ⟨rfl, rfl, rfl⟩, ?_⟩
      intro settings text layers read
      rw [layers, read] at inputs
      contradiction
  · rename_i settings text inputs
    obtain ⟨_, layers, inputs⟩ := bind_eq_ok_iff.mp inputs
    obtain ⟨_, read, inputs⟩ := bind_eq_ok_iff.mp inputs
    cases inputs
    split at ran
    · rename_i session started
      exact .inr ⟨settings, text, session, layers, read, started, ran⟩
    · contradiction

/-- Once the words are read, a run that does not list the presets is refused, for want of
a text or for the range of an option, or goes on. -/
theorem run_of_read (accepted : Arguments.read words = .ok arguments)
    (renders : arguments.has .listPresets = false) (ran : run surroundings words = .ok outcome) :
    (∃ error, outcome = .refused surroundings error ∧
      ¬(((given? arguments.source).isSome = true ∨ arguments.has .sample = true) ∧
        checkOptionRanges arguments Settings.ranges = .ok ())) ∨
    ((given? arguments.source).isSome = true ∨ arguments.has .sample = true) ∧
      checkOptionRanges arguments Settings.ranges = .ok () ∧
      typeset surroundings arguments = .ok outcome := by
  have hasSource : ((given? arguments.source).isNone && !arguments.has .sample) = false ↔
      (given? arguments.source).isSome = true ∨ arguments.has .sample = true := by
    rw [Bool.and_eq_false_iff, Option.isNone_eq_false_iff, Bool.not_eq_false']
  simp only [run, accepted, renders, Bool.false_eq_true, if_false] at ran
  split at ran
  · rename_i noSource
    cases ran
    refine .inl ⟨_, rfl, ?_⟩
    rintro ⟨source, -⟩
    rw [hasSource.mpr source] at noSource
    contradiction
  · rename_i source
    rw [Bool.not_eq_true, hasSource] at source
    split at ran
    · rename_i error options
      cases ran
      refine .inl ⟨error, rfl, ?_⟩
      rintro ⟨-, passed⟩
      rw [options] at passed
      contradiction
    · contradiction
    · rename_i options
      exact .inr ⟨source, options, ran⟩

/-- How a run ends: it shows something else than an article, it is refused, or it
renders an article. -/
theorem run_cases (ran : run surroundings words = .ok outcome) :
    (outcome.exit = 0 ∧ ∀ arguments, Arguments.read words = .ok arguments →
      arguments.has .listPresets = true) ∨
    (outcome.exit = 2 ∧ Untouched surroundings outcome ∧
      ∀ arguments settings text, ¬InOrder surroundings words arguments settings text) ∨
    ∃ arguments settings text session, InOrder surroundings words arguments settings text ∧
      Session.start (.text text) settings = .ok session ∧
      finish surroundings arguments text session = .ok outcome := by
  cases accepted : Arguments.read words with
  | error stop =>
      rw [run, accepted] at ran
      cases stop with
      | help =>
          cases ran
          exact .inl ⟨rfl, nofun⟩
      | error error =>
          cases ran
          refine .inr (.inl ⟨rfl, ⟨rfl, rfl, rfl⟩, ?_⟩)
          intro arguments settings text inOrder
          rw [inOrder.read] at accepted
          contradiction
  | ok arguments =>
      have only : ∀ {other settings text}, InOrder surroundings words other settings text →
          other = arguments := by
        intro other settings text inOrder
        exact Except.ok.inj (inOrder.read.symm.trans accepted)
      cases renders : arguments.has .listPresets with
      | true =>
          simp only [run, accepted, renders, if_true] at ran
          cases ran
          refine .inl ⟨rfl, ?_⟩
          rintro other ⟨rfl⟩
          exact renders
      | false =>
          right
          rcases run_of_read accepted renders ran with
            ⟨error, rfl, fails⟩ | ⟨source, options, ran⟩
          · refine .inl ⟨rfl, ⟨rfl, rfl, rfl⟩, ?_⟩
            intro other settings text inOrder
            cases only inOrder
            exact fails ⟨inOrder.source, inOrder.options⟩
          · rcases typeset_cases ran with ⟨exit, untouched, never⟩ |
              ⟨settings, text, session, layers, read, started, finished⟩
            · refine .inl ⟨exit, untouched, ?_⟩
              intro other settings text inOrder
              cases only inOrder
              exact never settings text inOrder.settings inOrder.text
            · exact .inr ⟨arguments, settings, text, session,
                ⟨accepted, renders, source, options, layers, read⟩, started, finished⟩

/-- Where the two texts are after a run: the HTML in its file or on the standard output,
the style sheet in its file, and nothing else changed.  If both files are one, it is the
style sheet that is there. -/
structure Receives (surroundings : Surroundings) (arguments : Arguments) (html css : String)
    (outcome : Outcome) : Prop where
  output : given? arguments.output = none → outcome.output = html ++ "\n"
  file : ∀ name, given? arguments.output = some name → outcome.output = "" ∧
    ((∀ other, given? arguments.stylesheet = some other → placeOf other ≠ placeOf name) →
      outcome.folder.find? (placeOf name) = some (.file html.toUTF8.toList))
  stylesheet : ∀ name, given? arguments.stylesheet = some name →
    outcome.folder.find? (placeOf name) = some (.file css.toUTF8.toList)
  others : ∀ place,
    (∀ name, given? arguments.output = some name ∨ given? arguments.stylesheet = some name →
      placeOf name ≠ place) →
    outcome.folder.find? place = surroundings.folder.find? place

theorem Stores.find?_eq {name : Option String} {folder next : Folder}
    (stores : Stores name text folder next) {place : Place}
    (different : ∀ given, name = some given → placeOf given ≠ place) :
    next.find? place = folder.find? place := by
  cases name with
  | none => rw [show next = folder from stores]
  | some given => exact (Folder.find?_of_write stores).2 place (Ne.symm (different given rfl))

theorem Stores.find?_placeOf {name : String} {folder next : Folder}
    (stores : Stores (some name) text folder next) :
    next.find? (placeOf name) = some (.file text.toUTF8.toList) :=
  (Folder.find?_of_write stores).1

theorem Writes.receives (writes : Writes surroundings arguments html css outcome) :
    Receives surroundings arguments html css outcome := by
  obtain ⟨middle, storesHtml, storesStylesheet⟩ := writes.stores
  refine ⟨?_, ?_, ?_, ?_⟩
  · intro noName
    rw [writes.output, noName]
    rfl
  · intro name named
    rw [named] at storesHtml
    refine ⟨by rw [writes.output, named]; rfl, ?_⟩
    intro different
    rw [storesStylesheet.find?_eq different, storesHtml.find?_placeOf]
  · intro name named
    rw [named] at storesStylesheet
    exact storesStylesheet.find?_placeOf
  · intro place different
    rw [storesStylesheet.find?_eq fun name named => different name (.inr named),
      storesHtml.find?_eq fun name named => different name (.inl named)]

/-- What a run writes.  A run that renders an article puts its settings together from
the layers, within the ranges, and takes its text from the sample, the standard input or
a file; the HTML and the style sheet of the two go where they are asked for, and the exit
code tells whether copying failed.  A run that ends with 2 writes nothing, unless all its
inputs are in order and a file cannot be written. -/
theorem run_writes (ran : run surroundings words = .ok outcome) :
    (∀ arguments, Arguments.read words = .ok arguments → arguments.has .listPresets = false →
      outcome.exit ≠ 2 →
      ∃ members settings text html css,
        HasMembers surroundings.folder arguments members ∧
        (∀ field, Field.get settings field = layered arguments members field) ∧
        settings.InRange ∧ (∃ height, settings.lineHeight.value? = some height) ∧
        IsArticle surroundings arguments text ∧
        Article.html .builtin (.text text) settings = .ok html ∧
        Stylesheet.ofSettings settings = .ok css ∧
        Receives surroundings arguments html css outcome ∧
        outcome.copies = copiesOf arguments surroundings.machine html ∧
        (outcome.exit = 1 ∧ CopyFails arguments surroundings.machine ∨
          outcome.exit = 0 ∧ ¬CopyFails arguments surroundings.machine)) ∧
    (outcome.exit = 2 →
      (Untouched surroundings outcome ∧
        ∀ arguments settings text, ¬InOrder surroundings words arguments settings text) ∨
      ∃ arguments settings text html css,
        InOrder surroundings words arguments settings text ∧
        Article.html .builtin (.text text) settings = .ok html ∧
        Stylesheet.ofSettings settings = .ok css ∧
        WriteFails surroundings.folder arguments html css) := by
  rcases run_cases ran with ⟨exit, lists⟩ | ⟨exit, untouched, never⟩ |
    ⟨arguments, settings, text, session, inOrder, started, finished⟩
  · constructor
    · intro arguments accepted renders
      rw [lists arguments accepted] at renders
      contradiction
    · intro failed
      rw [exit] at failed
      contradiction
  · exact ⟨fun _ _ _ notTwo => absurd exit notTwo, fun _ => .inl ⟨untouched, never⟩⟩
  · obtain ⟨rendered, styled⟩ : Article.html .builtin (.text text) settings = .ok session.html ∧
        Stylesheet.ofSettings settings = .ok session.stylesheet := by
      obtain ⟨textIs, settingsAre, current, shows⟩ := Session.start_eq_ok started
      have source : session.source? = some (text, settings) := by
        rw [Session.source?, textIs, settingsAre]
      rw [source] at shows
      rw [Session.Current, settingsAre] at current
      exact ⟨shows, current⟩
    obtain ⟨⟨members, hasMembers, fields⟩, checked, inRange⟩ := of_layeredSettings inOrder.settings
    rcases writes_or_fails_of_finish finished with writes | ⟨exit, fails⟩
    · constructor
      · intro other accepted _ _
        cases Except.ok.inj (inOrder.read.symm.trans accepted)
        exact ⟨members, settings, text, session.html, session.stylesheet, hasMembers, fields,
          inRange, Field.exists_value?_of_check rfl (checked .lineHeight),
          isArticle_of_articleText inOrder.source inOrder.text, rendered, styled, writes.receives,
          writes.copies, writes.exit⟩
      · intro failed
        rcases writes.exit with ⟨exit, -⟩ | ⟨exit, -⟩
        · rw [exit] at failed
          contradiction
        · rw [exit] at failed
          contradiction
    · refine ⟨fun _ _ _ notTwo => absurd exit notTwo, fun _ => .inr ?_⟩
      exact ⟨arguments, settings, text, session.html, session.stylesheet, inOrder, rendered,
        styled, fails⟩

/-- A folder with an article and a settings file, on a machine that has a clipboard. -/
def workplace : Surroundings where
  folder :=
    ⟨[(["a.md"], .file "# a\n".toUTF8.toList),
      (["s.json"], .file "\x7b\"fontSize\": 18, \"boldColor\": \"green\"\x7d".toUTF8.toList)]⟩
  input := ""
  machine := ⟨["xclip"], .accepted⟩
  console := .plain

/-- Words that ask for the article with all layers of settings, and for a copy. -/
def workplaceWords : List String :=
  ["a.md", "--settings", "s.json", "--preset", "red", "--font-size", "20", "--css", "b.css",
    "--copy", "-q"]

/-- What the words ask for. -/
def workplaceArguments : Arguments where
  source := some "a.md"
  settings := some "s.json"
  preset := some ⟨"red", "Vivid Red", "#d32f2f"⟩
  stylesheet := some "b.css"
  fields := [("font_size", .number (.double (Binary64.ofDecimal false 20 0)))]
  switches := [.quiet, .copy]

theorem run_writes_workplace :
    ∃ outcome, run workplace workplaceWords = .ok outcome ∧
      ∃ settings html css,
        Field.get settings .boldColor = .text "#d32f2f" ∧
        Field.get settings .fontSize = .number (.double (Binary64.ofDecimal false 20 0)) ∧
        outcome.output = html ++ "\n" ∧
        outcome.folder.find? ["b.css"] = some (.file css) ∧
        outcome.copies = [⟨["xclip", "-selection", "clipboard"], html⟩] := by
  have exits : (run workplace workplaceWords).toOption.map Outcome.exit = some 0 := by
    decide +kernel
  have accepted : Arguments.read workplaceWords = .ok workplaceArguments := rfl
  obtain ⟨outcome, found, exit⟩ := Option.map_eq_some_iff.mp exits
  have ran := toOption_eq_some_iff.mp found
  have notTwo : outcome.exit ≠ 2 := by omega
  obtain ⟨members, settings, text, html, css, -, fields, -, -, -, -, -, receives, copies, -⟩ :=
    (run_writes ran).1 workplaceArguments accepted rfl notTwo
  exact ⟨outcome, ran, settings, html, _, fields .boldColor, fields .fontSize,
    receives.output rfl, receives.stylesheet "b.css" rfl, copies⟩

end Cli

end Typeset
