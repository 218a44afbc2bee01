/-!
# Texts around a word

A text that says a word at fixed places, and depends on it in no other way, is a
list of fixed pieces joined by the word.  Such texts are closed under writing one
after the other, and the numbers of their joints add up.
-/

namespace Typeset.Text

/-- A text that says a word at a number of joints between fixed pieces. -/
def Joins (joints : Nat) (text : String → String) : Prop :=
  ∃ pieces : List String, pieces.length = joints + 1 ∧
    ∀ word, text word = word.intercalate pieces

/-- Two joined texts meet in one piece. -/
theorem intercalate_append_intercalate (word last first : String) (front back : List String) :
    word.intercalate (front ++ [last]) ++ word.intercalate (first :: back) =
      word.intercalate (front ++ (last ++ first) :: back) := by
  induction front with
  | nil => simp
  | cons piece front ih =>
      have leftRest : front ++ [last] ≠ [] := by simp
      have rightRest : front ++ (last ++ first) :: back ≠ [] := by simp
      rw [List.cons_append, List.cons_append, String.intercalate_cons_of_ne_nil leftRest,
        String.intercalate_cons_of_ne_nil rightRest, ← ih, String.append_assoc]

namespace Joins

variable {m n : Nat} {first second : String → String}

/-- A fixed text has no joints. -/
theorem fixed (text : String) : Joins 0 fun _ => text :=
  ⟨[text], rfl, fun _ => String.intercalate_singleton.symm⟩

/-- The word itself is one joint between empty pieces. -/
theorem word : Joins 1 fun word => word :=
  ⟨["", ""], rfl, by simp⟩

theorem append (joinsFirst : Joins m first) (joinsSecond : Joins n second) :
    Joins (m + n) fun word => first word ++ second word := by
  obtain ⟨pieces, length, joined⟩ := joinsFirst
  obtain ⟨otherPieces, otherLength, otherJoined⟩ := joinsSecond
  have nonempty := List.ne_nil_of_length_eq_add_one length
  obtain ⟨front, last, rfl⟩ : ∃ front last, pieces = front ++ [last] :=
    ⟨_, _, (List.dropLast_concat_getLast nonempty).symm⟩
  obtain ⟨next, back, rfl⟩ := List.exists_cons_of_length_eq_add_one otherLength
  refine ⟨front ++ (last ++ next) :: back, ?_, ?_⟩
  · simp only [List.length_append, List.length_cons, List.length_nil] at length otherLength ⊢
    omega
  · intro word
    simp only [joined, otherJoined, intercalate_append_intercalate]

/-- A text after a fixed one. -/
theorem after (text : String) (joins : Joins m first) :
    Joins m fun word => text ++ first word := by
  simpa using (fixed text).append joins

/-- A text before a fixed one. -/
theorem before (joins : Joins m first) (text : String) :
    Joins m fun word => first word ++ text :=
  joins.append (fixed text)

end Joins

end Typeset.Text
