import Typeset.Proofs.Cli.Program
import Typeset.Proofs.Status.Console

/-!
# Outputs that break

The outputs of a session are written one after the other: the HTML, the style sheet and the
copy.  Each of them can leave a run without an outcome: a file for its name or for what the
console makes of it, and the copy for its encoding or for what is said of it.  Main statement:
a session is left without an outcome exactly by the first output that breaks.
-/

namespace Typeset.Cli

variable {surroundings : Surroundings} {arguments : Arguments} {folder : Folder} {text : String}
  {before : Outcome} {reporter : Status.Reporter} {machine : Clipboard.Machine}
  {session : Session} {crash : Crash}

/-! ## Files -/

/-- What leaves a run without an outcome while a text is written to the file with a name: a
null character in the name or, once the file is written, a status line that the console
refuses. -/
inductive Breaks (reporter : Status.Reporter) (said name text : String) (folder : Folder) :
    Crash → Prop where
  | nullByte (null : '\x00' ∈ name.toList) : Breaks reporter said name text folder .nullByte
  | refused {next : Folder} {fault : Status.Fault} (loud : reporter.quiet = false)
      (stores : Stores (some name) text folder next)
      (refuses : reporter.console.print (said ++ name) = .error fault) :
      Breaks reporter said name text folder (.refused fault)

theorem report_eq_error_iff {line : Status.Line} :
    before.report reporter line = .error crash ↔
      ∃ fault, reporter.report line = .error fault ∧ crash = .refused fault := by
  simp only [Outcome.report, bind_eq_error_iff, mapError_eq_error_iff]
  constructor
  · rintro (⟨fault, refuses, rfl⟩ | ⟨lines, -, impossible⟩)
    · exact ⟨fault, refuses, rfl⟩
    · cases impossible
  · rintro ⟨fault, refuses, rfl⟩
    exact .inl ⟨fault, refuses, rfl⟩

theorem writeFile_eq_error_iff {said name : String} :
    writeFile before name text reporter (.info (said ++ name)) = .error crash ↔
      Breaks reporter said name text before.folder crash := by
  unfold writeFile
  constructor
  · intro broken
    split at broken
    · rename_i next stores
      obtain ⟨fault, refuses, rfl⟩ := report_eq_error_iff.mp (map_eq_error_iff.mp broken)
      obtain ⟨loud, refuses⟩ := Status.Reporter.report_info_eq_error_iff.mp refuses
      exact .refused loud stores refuses
    · rename_i null
      cases broken
      exact .nullByte (FilePath.hasNull_ofString_iff.mp (Folder.write_eq_nullByte_iff.mp null))
    · cases broken
  · intro broken
    cases broken with
    | nullByte null =>
        have fails := (@Folder.write_eq_nullByte_iff before.folder _ text.toUTF8.toList).mpr
          (FilePath.hasNull_ofString_iff.mpr null)
        rw [fails]
    | refused loud stores refuses =>
        have refuses := Status.Reporter.report_info_eq_error_iff.mpr ⟨loud, refuses⟩
        rw [show before.folder.write _ _ = _ from stores]
        exact map_eq_error_iff.mpr (report_eq_error_iff.mpr ⟨_, refuses, rfl⟩)

/-- A name without null characters can be used, and reported if the line for it has no tags. -/
theorem not_breaks {said name : String} (follows : reporter.console.Follows)
    (noNull : '\x00' ∉ name.toList)
    (untagged : Status.Markup.Untagged (said ++ name).toList) :
    ¬Breaks reporter said name text folder crash := by
  intro broken
  cases broken with
  | nullByte null => exact noNull null
  | refused loud stores refuses =>
      obtain ⟨printed, prints⟩ := follows.exists_print_of_untagged untagged
      cases refuses.symm.trans prints

/-- Writing the HTML leaves a run without an outcome. -/
def HtmlBreaks (arguments : Arguments) (reporter : Status.Reporter) (session : Session)
    (folder : Folder) (crash : Crash) : Prop :=
  ∃ name, given? arguments.output = some name ∧
    Breaks reporter "Wrote HTML to " name session.html folder crash

/-- Writing the style sheet leaves a run without an outcome. -/
def StylesheetBreaks (arguments : Arguments) (reporter : Status.Reporter) (session : Session)
    (folder : Folder) (crash : Crash) : Prop :=
  ∃ name, given? arguments.stylesheet = some name ∧
    Breaks reporter "Wrote Obsidian CSS snippet to " name session.stylesheet folder crash

theorem writeHtml_eq_error_iff :
    writeHtml arguments reporter session before = .error crash ↔
      HtmlBreaks arguments reporter session before.folder crash := by
  unfold writeHtml HtmlBreaks
  cases given? arguments.output with
  | none => simp
  | some name => simp only [Option.some.injEq, exists_eq_left', ← writeFile_eq_error_iff]

theorem writeStylesheet_eq_error_iff :
    writeStylesheet arguments reporter session before = .error crash ↔
      StylesheetBreaks arguments reporter session before.folder crash := by
  unfold writeStylesheet StylesheetBreaks
  cases given? arguments.stylesheet with
  | none => simp
  | some name => simp only [Option.some.injEq, exists_eq_left', ← writeFile_eq_error_iff]

/-! ## The copy -/

/-- What leaves a run without an outcome while a text is copied: what the program takes or
prints is garbled, or the console refuses what is said of the copy. -/
inductive CopyBreaks (machine : Clipboard.Machine) (reporter : Status.Reporter) (text : String) :
    Crash → Prop where
  | garbled {reason : String} (found : machine.command?.isSome = true)
      (garbled : machine.ending = .garbled reason) :
      CopyBreaks machine reporter text (.garbled reason)
  | refused {copy : Clipboard.Copy} {fault : Status.Fault} (copied : machine.copy text = .ok copy)
      (refuses : reporter.report (.copyResult copy.copied) = .error fault) :
      CopyBreaks machine reporter text (.refused fault)

theorem copyHtml_eq_error_iff :
    copyHtml arguments machine reporter session before = .error crash ↔
      arguments.has .copy = true ∧ CopyBreaks machine reporter session.html crash := by
  unfold copyHtml
  constructor
  · intro broken
    split at broken
    · rename_i asked
      refine ⟨asked, ?_⟩
      rcases bind_eq_error_iff.mp broken with broken | ⟨copy, copied, broken⟩
      · obtain ⟨reason, fails, rfl⟩ := mapError_eq_error_iff.mp broken
        obtain ⟨found, garbled⟩ := Clipboard.Machine.copy_eq_error_iff.mp fails
        exact .garbled found garbled
      · obtain ⟨fault, refuses, rfl⟩ := report_eq_error_iff.mp broken
        exact .refused (mapError_eq_ok_iff.mp copied) refuses
    · cases broken
  · rintro ⟨asked, broken⟩
    rw [if_pos asked]
    apply bind_eq_error_iff.mpr
    cases broken with
    | garbled found garbled =>
        have fails := (@Clipboard.Machine.copy_eq_error_iff _ session.html _).mpr ⟨found, garbled⟩
        exact .inl (mapError_eq_error_iff.mpr ⟨_, fails, rfl⟩)
    | refused copied refuses =>
        exact .inr ⟨_, mapError_eq_ok_iff.mpr copied, report_eq_error_iff.mpr ⟨_, refuses, rfl⟩⟩

theorem not_copyBreaks (follows : reporter.console.Follows)
    (readable : ∀ reason, machine.ending ≠ .garbled reason) :
    ¬CopyBreaks machine reporter text crash := by
  intro broken
  cases broken with
  | garbled found garbled => exact readable _ garbled
  | @refused copy fault copied refuses =>
      obtain ⟨lines, reports⟩ := Status.Reporter.exists_report_copyResult follows copy.copied
      cases refuses.symm.trans reports

/-! ## All outputs -/

/-- What leaves a run without an outcome while a session is written: the HTML, the style sheet
after the HTML was written, or the copy after both were. -/
inductive OutputsBreak (surroundings : Surroundings) (arguments : Arguments)
    (session : Session) : Crash → Prop where
  | html {crash : Crash}
      (broken : HtmlBreaks arguments (reporterOf surroundings arguments) session
        surroundings.folder crash) :
      OutputsBreak surroundings arguments session crash
  | stylesheet {crash : Crash} {middle : Folder}
      (whole : ∀ other, ¬HtmlBreaks arguments (reporterOf surroundings arguments) session
        surroundings.folder other)
      (stores : Stores (given? arguments.output) session.html surroundings.folder middle)
      (broken : StylesheetBreaks arguments (reporterOf surroundings arguments) session middle
        crash) :
      OutputsBreak surroundings arguments session crash
  | copy {crash : Crash} {middle last : Folder}
      (whole : ∀ other, ¬HtmlBreaks arguments (reporterOf surroundings arguments) session
        surroundings.folder other)
      (stores : Stores (given? arguments.output) session.html surroundings.folder middle)
      (wholeSecond : ∀ other, ¬StylesheetBreaks arguments (reporterOf surroundings arguments)
        session middle other)
      (storesSecond : Stores (given? arguments.stylesheet) session.stylesheet middle last)
      (asked : arguments.has .copy = true)
      (broken : CopyBreaks surroundings.machine (reporterOf surroundings arguments) session.html
        crash) :
      OutputsBreak surroundings arguments session crash

/-- A text cannot be both written and not. -/
theorem Stores.not_unwritable {name : Option String} {next : Folder}
    (stores : Stores name text folder next) : ¬Unwritable name text folder := by
  rintro ⟨given, error, rfl, fails⟩
  cases fails.symm.trans stores

theorem Stores.unique {name : Option String} {next other : Folder}
    (stores : Stores name text folder next) (storesOther : Stores name text folder other) :
    next = other := by
  cases name with
  | none => exact stores.trans storesOther.symm
  | some given =>
      cases stores.symm.trans storesOther
      rfl

/-- A text is written to files only whose names have no null characters. -/
theorem Stores.null_not_mem {name : String} {next : Folder}
    (stores : Stores (some name) text folder next) : '\x00' ∉ name.toList := by
  intro null
  have fails := (@Folder.write_eq_nullByte_iff folder _ text.toUTF8.toList).mpr
    (FilePath.hasNull_ofString_iff.mpr null)
  cases fails.symm.trans stores

/-- An output that does not break and stores its text goes on to the next one. -/
theorem Stores.exists_eq_ok {name : Option String} {shown : String} {next : Folder}
    {reached : Except Crash (Except Outcome Outcome)}
    (stores : Stores name text before.folder next) (whole : ∀ other, reached ≠ .error other)
    (ends : ∀ {result}, reached = .ok result → Ends name text shown before result) :
    ∃ after, reached = .ok (.ok after) ∧ after.folder = next := by
  cases reached with
  | error crash => exact absurd rfl (whole crash)
  | ok result =>
      rcases ends rfl with ⟨after, rfl, delivers, -⟩ | ⟨ended, rfl, -, unwritable⟩
      · exact ⟨after, rfl, delivers.stores.unique stores⟩
      · exact absurd unwritable stores.not_unwritable

theorem exists_writeHtml_eq_ok {middle : Folder}
    (whole : ∀ other, ¬HtmlBreaks arguments reporter session before.folder other)
    (stores : Stores (given? arguments.output) session.html before.folder middle) :
    ∃ after, writeHtml arguments reporter session before = .ok (.ok after) ∧
      after.folder = middle :=
  stores.exists_eq_ok (fun other => mt writeHtml_eq_error_iff.mp (whole other)) ends_writeHtml

theorem exists_writeStylesheet_eq_ok {last : Folder}
    (whole : ∀ other, ¬StylesheetBreaks arguments reporter session before.folder other)
    (stores : Stores (given? arguments.stylesheet) session.stylesheet before.folder last) :
    ∃ after, writeStylesheet arguments reporter session before = .ok (.ok after) ∧
      after.folder = last :=
  stores.exists_eq_ok (fun other => mt writeStylesheet_eq_error_iff.mp (whole other))
    ends_writeStylesheet

theorem outputsBreak_of_finish
    (broken : finish surroundings arguments text session = .error crash) :
    OutputsBreak surroundings arguments session crash := by
  rcases bind_eq_error_iff.mp broken with broken | ⟨first, reached, broken⟩
  · exact .html (writeHtml_eq_error_iff.mp broken)
  · -- An output that was written and reported does not break as well.
    have whole : ∀ other, ¬HtmlBreaks arguments (reporterOf surroundings arguments) session
        surroundings.folder other := by
      intro other brokenFirst
      cases reached.symm.trans (writeHtml_eq_error_iff.mpr brokenFirst)
    rcases ends_writeHtml reached with ⟨middle, rfl, delivers, -⟩ | ⟨ended, rfl, -⟩
    · rcases bind_eq_error_iff.mp broken with broken | ⟨second, reachedSecond, broken⟩
      · exact .stylesheet whole delivers.stores (writeStylesheet_eq_error_iff.mp broken)
      · have wholeSecond : ∀ other,
            ¬StylesheetBreaks arguments (reporterOf surroundings arguments) session middle.folder
              other := by
          intro other brokenSecond
          cases reachedSecond.symm.trans (writeStylesheet_eq_error_iff.mpr brokenSecond)
        rcases ends_writeStylesheet reachedSecond with ⟨last, rfl, deliversSecond, -⟩ |
          ⟨ended, rfl, -⟩
        · obtain ⟨asked, broken⟩ := copyHtml_eq_error_iff.mp broken
          exact .copy whole delivers.stores wholeSecond deliversSecond.stores asked broken
        · cases broken
    · cases broken

theorem OutputsBreak.finish_eq (broken : OutputsBreak surroundings arguments session crash)
    (text : String) : finish surroundings arguments text session = .error crash := by
  let notices := if arguments.has .verbose then [lengthNotice text session.html] else []
  let start := Outcome.early surroundings 0 "" notices
  apply bind_eq_error_iff.mpr
  cases broken with
  | html broken => exact .inl (writeHtml_eq_error_iff.mpr broken)
  | stylesheet whole stores broken =>
      obtain ⟨after, reached, rfl⟩ := @exists_writeHtml_eq_ok _ start _ _ _ whole stores
      refine .inr ⟨_, reached, bind_eq_error_iff.mpr (.inl ?_)⟩
      exact writeStylesheet_eq_error_iff.mpr broken
  | copy whole stores wholeSecond storesSecond asked broken =>
      obtain ⟨after, reached, rfl⟩ := @exists_writeHtml_eq_ok _ start _ _ _ whole stores
      obtain ⟨last, reachedSecond, -⟩ := exists_writeStylesheet_eq_ok wholeSecond storesSecond
      refine .inr ⟨_, reached, bind_eq_error_iff.mpr (.inr ⟨_, reachedSecond, ?_⟩)⟩
      exact copyHtml_eq_error_iff.mpr ⟨asked, broken⟩

theorem finish_eq_error_iff :
    finish surroundings arguments text session = .error crash ↔
      OutputsBreak surroundings arguments session crash :=
  ⟨outputsBreak_of_finish, fun broken => broken.finish_eq text⟩

end Typeset.Cli
