import Mathlib.Data.List.Basic

/-!
# Lines

A text in which every line is ended by a line feed comes apart into its lines, and into
no others, as long as no line has a line feed of its own.
-/

namespace Typeset

/-- A text without line feeds. -/
def IsLine (text : String) : Prop :=
  '\n' ∉ text.toList

instance (text : String) : Decidable (IsLine text) :=
  inferInstanceAs (Decidable ('\n' ∉ text.toList))

theorem isLine_append_iff {first second : String} :
    IsLine (first ++ second) ↔ IsLine first ∧ IsLine second := by
  simp [IsLine]

/-- Lines as a text, where each is ended by a line feed. -/
def unlines : List String → String
  | [] => ""
  | line :: lines => line ++ "\n" ++ unlines lines

theorem unlines_append (lines others : List String) :
    unlines (lines ++ others) = unlines lines ++ unlines others := by
  induction lines with
  | nil => simp [unlines]
  | cons line lines ih => simp only [List.cons_append, unlines, ih, String.append_assoc]

/-- Two texts with a mark in them are cut alike where it first occurs. -/
theorem eq_of_append_mark {mark : Char} {first second rest others : List Char}
    (notFirst : mark ∉ first) (notSecond : mark ∉ second)
    (equal : first ++ mark :: rest = second ++ mark :: others) :
    first = second ∧ rest = others := by
  rcases List.append_eq_append_iff.mp equal with ⟨middle, rfl, after⟩ | ⟨middle, rfl, after⟩
  · cases middle with
    | nil => simpa using after
    | cons c middle =>
        obtain ⟨rfl, -⟩ := List.cons.inj after
        simp at notSecond
  · cases middle with
    | nil => simpa [eq_comm] using after
    | cons c middle =>
        obtain ⟨rfl, -⟩ := List.cons.inj after
        simp at notFirst

/-- A text of lines comes apart into these lines only. -/
theorem unlines_inj {lines others : List String} (areLines : ∀ line ∈ lines, IsLine line)
    (otherLines : ∀ line ∈ others, IsLine line) (equal : unlines lines = unlines others) :
    lines = others := by
  induction lines generalizing others with
  | nil =>
      cases others with
      | nil => rfl
      | cons other others => simp [unlines] at equal
  | cons line lines ih =>
      cases others with
      | nil => simp [unlines] at equal
      | cons other others =>
          obtain ⟨isLine, areLines⟩ := List.forall_mem_cons.mp areLines
          obtain ⟨otherIsLine, otherLines⟩ := List.forall_mem_cons.mp otherLines
          have lineFeed : "\n".toList = ['\n'] := rfl
          have chars := congrArg String.toList equal
          simp only [unlines, String.toList_append, lineFeed, List.append_assoc,
            List.singleton_append] at chars
          obtain ⟨first, rest⟩ := eq_of_append_mark isLine otherIsLine chars
          rw [String.toList_inj.mp first, ih areLines otherLines (String.toList_inj.mp rest)]

theorem intercalate_lineFeed {lines : List String} (nonempty : lines ≠ []) :
    "\n".intercalate lines ++ "\n" = unlines lines := by
  induction lines with
  | nil => contradiction
  | cons line lines ih =>
      cases lines with
      | nil => simp [unlines]
      | cons next lines =>
          have rest : next :: lines ≠ [] := List.cons_ne_nil next lines
          rw [String.intercalate_cons_of_ne_nil rest, String.append_assoc, ih rest]
          rfl

end Typeset
