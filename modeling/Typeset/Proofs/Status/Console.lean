import Typeset.Proofs.Status.Verbatim
import Typeset.Status.Reporter

/-!
# What a console prints

A console that follows the markup prints a message as it is if nothing in it is read as
markup and if it fits into a line.  It refuses no message that closes nothing, as long as
the meaning of the tags in it is known, and none of what is said of a copy.
-/

namespace Typeset.Status

/-! ## Messages that are read -/

/-- The meaning of all tags in a message is known. -/
def IsRead (message : String) : Prop :=
  (Markup.tokens message).all Markup.Token.isRead = true

section Read

variable {message : String} {result : Except MarkupError String}

theorem IsRead.reading?_eq (isRead : IsRead message) : reading? message = some (shown message) :=
  if_pos isRead

theorem eq_shown_of_reading? (read : reading? message = some result) : result = shown message := by
  unfold reading? at read
  split at read
  · exact (Option.some.inj read).symm
  · cases read

/-- There is nothing to know in a message without tags. -/
theorem isRead_of_untagged (untagged : Markup.Untagged message.toList) : IsRead message := by
  rw [IsRead, Markup.tokens, Markup.scan_of_untagged untagged (Nat.lt_succ_self _)]
  rfl

end Read

/-! ## Consoles -/

theorem columns_le_of_sublist {text whole : List Char} (sublist : text.Sublist whole) :
    columns text ≤ columns whole := by
  induction sublist with
  | slnil => exact Nat.le_refl 0
  | cons c sublist ih => exact Nat.le_trans ih (Nat.le_add_left ..)
  | cons_cons c sublist ih => exact Nat.add_le_add_left ih _

namespace Console

variable {console : Console} {message : String}

theorem Fits.of_sublist {text whole : List Char} (fits : console.Fits whole)
    (sublist : text.Sublist whole) : console.Fits text :=
  ⟨mt sublist.mem fits.1, (columns_le_of_sublist sublist).trans fits.2⟩

namespace Follows

variable (follows : console.Follows)
include follows

theorem exists_print_eq_ok (isRead : IsRead message) (shows : ∃ text, shown message = .ok text) :
    ∃ printed, console.print message = .ok printed := by
  obtain ⟨text, shows⟩ := shows
  exact follows.prints message text (by rw [isRead.reading?_eq, shows])

/-- A message without tags is not refused. -/
theorem exists_print_of_untagged (untagged : Markup.Untagged message.toList) :
    ∃ printed, console.print message = .ok printed :=
  follows.exists_print_eq_ok (isRead_of_untagged untagged)
    (exists_shown_of_closesNothing untagged.closesNothing)

/-- A message without markup that fits into a line is printed as it is. -/
theorem print_of_plain (plain : Plain message.toList) (fits : console.Fits message.toList) :
    console.print message = .ok message := by
  have isRead := isRead_of_untagged plain.untagged
  exact follows.whole message message (by rw [isRead.reading?_eq, shown_of_plain plain]) fits

/-- Of the messages without a colon that fit, no others are. -/
theorem print_eq_self_iff (isRead : IsRead message) (fits : console.Fits message.toList)
    (noColon : ':' ∉ message.toList) :
    console.print message = .ok message ↔ Plain message.toList := by
  constructor
  · intro printed
    have read := isRead.reading?_eq
    cases shows : shown message with
    | error error =>
        rw [shows] at read
        cases (follows.refuses message error read).symm.trans printed
    | ok text =>
        rw [shows] at read
        -- What is shown is no longer than the message, so it fits into a line as well.
        have fitsText := fits.of_sublist (toList_sublist_of_shown noColon shows)
        cases (follows.whole message text read fitsText).symm.trans printed
        exact (shown_eq_self_iff noColon).mp shows
  · intro plain
    exact follows.print_of_plain plain fits

end Follows

theorem expandTabs_eq_self {text : List Char} (noTab : '\t' ∉ text) (column : Nat) :
    expandTabs column text = text := by
  fun_induction expandTabs column text with
  | case1 => rfl
  | case2 column c rest tab => exact absurd (eq_of_beq tab) (List.ne_of_not_mem_cons noTab).symm
  | case3 column c rest tab lineFeed ih => rw [ih (List.not_mem_of_not_mem_cons noTab)]
  | case4 column c rest tab lineFeed ih => rw [ih (List.not_mem_of_not_mem_cons noTab)]

/-- The plain console follows the markup. -/
theorem plain_follows : plain.Follows where
  refuses message error read := by
    have shows := eq_shown_of_reading? read
    simp only [plain, ← shows]
  prints message text read := by
    have shows := eq_shown_of_reading? read
    exact ⟨String.ofList (expandTabs 0 text.toList), by simp only [plain, ← shows]⟩
  whole message text read fits := by
    have shows := eq_shown_of_reading? read
    simp only [plain, ← shows, expandTabs_eq_self fits.1, String.ofList_toList]

end Console

/-! ## Lines for the user -/

namespace Reporter

variable {reporter : Reporter} {message : String}

theorem report_eq_of_text? {line : Line} (spoken : line.text? reporter.quiet = some message) :
    reporter.report line = (reporter.console.print message).map fun printed => [printed] := by
  rw [report, spoken]

theorem report_info_of_loud (loud : reporter.quiet = false) :
    reporter.report (.info message) =
      (reporter.console.print message).map fun printed => [printed] :=
  report_eq_of_text? (by rw [loud]; rfl)

/-- Information is told as it is if the console prints it so. -/
theorem report_info_eq_self_iff (loud : reporter.quiet = false) :
    reporter.report (.info message) = .ok [message] ↔
      reporter.console.print message = .ok message := by
  rw [report_info_of_loud loud, map_eq_ok_iff]
  constructor
  · rintro ⟨printed, shows, same⟩
    rwa [List.singleton_inj.mp same] at shows
  · intro shows
    exact ⟨message, shows, rfl⟩

/-- Information is refused only if it is told. -/
theorem report_info_eq_error_iff {fault : Fault} :
    reporter.report (.info message) = .error fault ↔
      reporter.quiet = false ∧ reporter.console.print message = .error fault := by
  cases mode : reporter.quiet with
  | true => simp [report, Line.text?, Line.plain, mode]
  | false => rw [report_info_of_loud mode, map_eq_error_iff, eq_self_iff_true, true_and]

section Follows

variable (follows : reporter.console.Follows)
include follows

theorem exists_report_eq_ok {line : Line} (spoken : line.text? reporter.quiet = some message)
    (isRead : IsRead message) (shows : ∃ text, shown message = .ok text) :
    ∃ lines, reporter.report line = .ok lines := by
  obtain ⟨printed, prints⟩ := follows.exists_print_eq_ok isRead shows
  exact ⟨[printed], by rw [report_eq_of_text? spoken, prints]; rfl⟩

/-- What is said of a copy is not refused. -/
theorem exists_report_copyResult (copied : Bool) :
    ∃ lines, reporter.report (.copyResult copied) = .ok lines := by
  cases copied with
  | false =>
      have spoken : (Line.copyResult false).text? reporter.quiet =
          some "[red]ERROR:[/red] Could not copy HTML to the clipboard" := rfl
      apply exists_report_eq_ok follows spoken rfl
      exact @exists_shown_of_enclosed _ "red".toList "ERROR:".toList
        " Could not copy HTML to the clipboard".toList 0 11 (by decide) (by decide) rfl
  | true =>
      cases mode : reporter.quiet with
      | true =>
          have silent : (Line.copyResult true).text? reporter.quiet = none := by
            rw [mode]
            rfl
          exact ⟨[], by rw [report, silent]⟩
      | false =>
          have spoken : (Line.copyResult true).text? reporter.quiet =
              some "[green]Copied![/green] HTML is on the clipboard" := by
            rw [mode]
            rfl
          apply exists_report_eq_ok follows spoken rfl
          exact @exists_shown_of_enclosed _ "green".toList "Copied!".toList
            " HTML is on the clipboard".toList 0 14 (by decide) (by decide) rfl

end Follows

end Reporter

end Typeset.Status
