import Mathlib.Data.List.TakeWhile
import Typeset.Markdown.Reader
import Typeset.Proofs.Basic
import Typeset.Proofs.Json.Lines
import Typeset.Proofs.Text.Lines

/-!
# The lines of a Markdown text

A text of lines, each ended by a line feed, is cut into these lines.  A line comes apart into its
margin and its text, and has its own characters back when no columns are taken from its margin.
-/

namespace Typeset.Markdown

open Text

/-! ## Texts -/

/-- A text that is read as it stands: no carriage returns, which end lines, and no null
characters, which are replaced. -/
def IsSource (text : String) : Prop :=
  ∀ c ∈ text.toList, c ≠ '\r' ∧ c.toNat ≠ 0

instance (text : String) : Decidable (IsSource text) :=
  decidable_of_iff (text.toList.all (fun c => c != '\r' && c.toNat != 0) = true)
    (by simp [IsSource])

theorem isSource_append_iff {first second : String} :
    IsSource (first ++ second) ↔ IsSource first ∧ IsSource second := by
  simp only [IsSource, String.toList_append, List.forall_mem_append]

theorem isSource_unlines {lines : List String} (areSource : ∀ line ∈ lines, IsSource line) :
    IsSource (unlines lines) := by
  induction lines with
  | nil => decide
  | cons line lines ih =>
      obtain ⟨isSource, others⟩ := List.forall_mem_cons.mp areSource
      have lineFeed : IsSource "\n" := by decide
      exact isSource_append_iff.mpr
        ⟨isSource_append_iff.mpr ⟨isSource, lineFeed⟩, ih others⟩

theorem sourceText_eq_self {text : String} (isSource : IsSource text) :
    sourceText text.toList = text.toList := by
  have noReturn : '\r' ∉ text.toList := fun member => (isSource _ member).1 rfl
  rw [sourceText, unifyLines_eq_self noReturn]
  conv_rhs => rw [← List.map_id text.toList]
  exact List.map_congr_left fun c member => if_neg (isSource c member).2

/-- Joined lines are the first line, a line feed and the other lines. -/
theorem toList_intercalate (line next : String) (lines : List String) :
    ("\n".intercalate (line :: next :: lines)).toList =
      line.toList ++ '\n' :: ("\n".intercalate (next :: lines)).toList := by
  rw [String.intercalate_cons_of_ne_nil (List.cons_ne_nil next lines)]
  simp

/-- Joined lines start with the first line. -/
theorem exists_toList_intercalate (line : String) (lines : List String) :
    ∃ rest, ("\n".intercalate (line :: lines)).toList = line.toList ++ rest := by
  cases lines with
  | nil => exact ⟨[], by simp⟩
  | cons next lines => exact ⟨_, toList_intercalate line next lines⟩

/-! ## Columns -/

/-- Every character of a margin takes a column at least. -/
theorem le_columnsAfter (column reached : Nat) (margin : List Char) :
    reached + margin.length ≤ columnsAfter column reached margin := by
  induction margin generalizing reached with
  | nil => rfl
  | cons c rest ih =>
      have width : 1 ≤ if c == '\t' then 4 - (reached + column) % 4 else 1 := by
        split
        · have remainder := Nat.mod_lt (reached + column) (by decide : 0 < 4)
          omega
        · rfl
      have later := ih (reached + if c == '\t' then 4 - (reached + column) % 4 else 1)
      rw [columnsAfter, List.length_cons]
      omega

theorem columnsAfter_spaces (column reached count : Nat) :
    columnsAfter column reached (List.replicate count ' ') = reached + count := by
  induction count generalizing reached with
  | zero => rfl
  | succ count ih =>
      have space : (' ' == '\t') = false := rfl
      rw [List.replicate_succ, columnsAfter, space, if_neg Bool.false_ne_true, ih]
      omega

/-- A tab at the start of a line reaches four columns, so a margin of fewer consists of spaces. -/
theorem eq_spaces_of_columnsAfter_lt {margin : List Char} {reached : Nat}
    (blank : ∀ c ∈ margin, isBlank c = true) (few : columnsAfter 0 reached margin < 4) :
    margin = List.replicate margin.length ' ' := by
  induction margin generalizing reached with
  | nil => rfl
  | cons c rest ih =>
      obtain ⟨isBlank, blanks⟩ := List.forall_mem_cons.mp blank
      rw [columnsAfter] at few
      by_cases tab : c = '\t'
      · have enough := le_columnsAfter 0 (reached + (4 - (reached + 0) % 4)) rest
        rw [tab, beq_self_eq_true, if_pos rfl] at few
        omega
      · have space : c = ' ' := by simpa [Text.isBlank, tab] using isBlank
        rw [space, List.length_cons, List.replicate_succ, ← ih blanks few]

namespace Line

/-- No columns are taken from a margin. -/
theorem marginAfter_zero (column : Nat) (margin : List Char) :
    marginAfter column 0 0 margin = margin := by
  cases margin with
  | nil => rfl
  | cons c rest => rw [marginAfter, if_pos (Nat.le_refl 0), Nat.sub_self, List.replicate_zero,
      List.nil_append]

/-- All columns are taken from a margin without tabs. -/
theorem marginAfter_all {margin : List Char} (noTab : '\t' ∉ margin) (column reached : Nat) :
    marginAfter column (reached + margin.length) reached margin = [] := by
  induction margin generalizing reached with
  | nil => simp [marginAfter]
  | cons c rest ih =>
      obtain ⟨notTab, noTab⟩ := not_or.mp (List.mem_cons.not.mp noTab)
      have onward : reached + (c :: rest).length = reached + 1 + rest.length := by
        rw [List.length_cons]
        omega
      rw [marginAfter, if_neg (by simp), beq_false_of_ne (Ne.symm notTab), onward]
      exact ih noTab (reached + 1)

/-- A line of its own has its characters back. -/
theorem dropColumns_ofChars (chars : List Char) (ended : Bool) :
    (ofChars chars ended).dropColumns 0 = chars := by
  rw [dropColumns, marginAfter_zero]
  exact List.prefix_iff_eq_append.mp (List.takeWhile_prefix _)

/-- No line lies outside a document. -/
theorem isOutdented_ofChars (chars : List Char) (ended : Bool) :
    Frame.outermost.isOutdented (ofChars chars ended) = false :=
  decide_eq_false (Int.not_lt.mpr (Int.natCast_nonneg _))

/-- The margin of a line ends where its text starts with no blank. -/
theorem ofChars_append {margin text : List Char} (blank : ∀ c ∈ margin, Text.isBlank c = true)
    (head : text.head?.any Text.isBlank = false) (ended : Bool) :
    ofChars (margin ++ text) ended =
      { margin, column := 0, indent := columnsAfter 0 0 margin, text, ended } := by
  rw [ofChars, takeWhile_append_eq blank ((Option.any_eq_false _ _).mp head), List.drop_left]

/-- A line that starts with no blank has no margin. -/
theorem ofChars_cons {first : Char} (notBlank : Text.isBlank first = false) (rest : List Char)
    (ended : Bool) :
    ofChars (first :: rest) ended =
      { margin := [], column := 0, indent := 0, text := first :: rest, ended } :=
  @ofChars_append [] (first :: rest) (List.forall_mem_nil _) notBlank ended

end Line

/-! ## Cutting -/

theorem splitLines_go_append {line : List Char} (isLine : '\n' ∉ line) (reversed rest : List Char) :
    splitLines.go reversed (line ++ rest) = splitLines.go (line.reverse ++ reversed) rest := by
  induction line generalizing reversed with
  | nil => rfl
  | cons c line ih =>
      obtain ⟨notFeed, isLine⟩ := not_or.mp (List.mem_cons.not.mp isLine)
      rw [List.cons_append, splitLines.go, if_neg (by simpa using Ne.symm notFeed), ih isLine,
        List.reverse_cons, List.append_assoc, List.singleton_append]

/-- A first line is cut off at its line feed. -/
theorem splitLines_line {line : List Char} (isLine : '\n' ∉ line) (rest : List Char) :
    splitLines (line ++ '\n' :: rest) = Line.ofChars line true :: splitLines rest := by
  rw [splitLines, splitLines_go_append isLine, splitLines.go, if_pos (beq_self_eq_true '\n'),
    List.append_nil, List.reverse_reverse]
  rfl

/-- What is left without a line feed is a line unless it is blank. -/
theorem splitLines_last {line : List Char} (isLine : '\n' ∉ line)
    (notBlank : line.all isBlank = false) : splitLines line = [Line.ofChars line false] := by
  have cut := splitLines_go_append isLine [] []
  rw [List.append_nil, List.append_nil] at cut
  rw [splitLines, cut, splitLines.go, List.all_reverse, notBlank, if_neg Bool.false_ne_true,
    List.reverse_reverse]

theorem splitLines_unlines {lines : List String} (areLines : ∀ line ∈ lines, IsLine line)
    (rest : List Char) :
    splitLines ((unlines lines).toList ++ rest) =
      lines.map (fun line => Line.ofChars line.toList true) ++ splitLines rest := by
  induction lines with
  | nil => simp [unlines]
  | cons line lines ih =>
      obtain ⟨isLine, others⟩ := List.forall_mem_cons.mp areLines
      have chars : (unlines (line :: lines)).toList ++ rest =
          line.toList ++ '\n' :: ((unlines lines).toList ++ rest) := by
        simp [unlines]
      rw [chars, splitLines_line isLine, ih others, List.map_cons, List.cons_append]

end Typeset.Markdown
