import Mathlib.Data.List.TakeWhile
import Typeset.Proofs.Basic
import Typeset.Status.Markup

/-!
# Messages that can be shown

Only a tag that closes can keep a message from being shown, and such a tag starts with a
bracket and a slash.  A message without a closing tag is always shown, and so is one whose
only closing tag has the name of the tag before it.
-/

namespace Typeset.Status

/-- The start of a tag that closes. -/
def closingStart : List Char :=
  ['[', '/']

namespace Markup

section Tags

variable {opened : List (List Char)} {content : List Char} {position : Nat} {rest : List Token}

theorem exists_strip_text (chars : List Char) (stripped : ∃ text, strip opened rest = .ok text) :
    ∃ text, strip opened (.text chars :: rest) = .ok text := by
  obtain ⟨text, stripped⟩ := stripped
  exact ⟨_, by rw [strip, stripped, Except.map]⟩

theorem strip_opening (opens : content.head? ≠ some '/') :
    strip opened (.tag content position :: rest) = strip (tagStyle content :: opened) rest := by
  conv => lhs; unfold strip
  split
  · exact absurd rfl opens
  · rfl

/-- A tag is closed by its own name, whatever its style is. -/
theorem strip_closing (named : (content.takeWhile (· != '=')).all Text.separatesWords = false) :
    strip (tagStyle content :: opened) (.tag ('/' :: content) position :: rest) =
      strip opened rest := by
  conv => lhs; unfold strip
  simp [named]

end Tags

/-- A part of a message that closes nothing. -/
def Token.Harmless : Token → Prop
  | text _ => True
  | tag content _ => content.head? ≠ some '/'

/-- Parts that close nothing leave a text. -/
theorem exists_strip_eq_ok {tokens : List Token} (harmless : ∀ token ∈ tokens, token.Harmless)
    (opened : List (List Char)) : ∃ text, strip opened tokens = .ok text := by
  induction tokens generalizing opened with
  | nil => exact ⟨[], rfl⟩
  | cons token tokens ih =>
      obtain ⟨first, others⟩ := List.forall_mem_cons.mp harmless
      cases token with
      | text chars => exact exists_strip_text chars (ih others opened)
      | tag content position =>
          rw [strip_opening first]
          exact ih others _

/-- A character that what a tag holds may start with. -/
def StartsTag (c : Char) : Prop :=
  'a' ≤ c ∧ c ≤ 'z' ∨ c = '#' ∨ c = '/' ∨ c = '@'

instance (c : Char) : Decidable (StartsTag c) :=
  inferInstanceAs (Decidable (_ ∨ _))

/-- What a tag holds between its brackets. -/
def IsContent (content : List Char) : Prop :=
  ∃ first others, content = first :: others ∧ StartsTag first ∧ ∀ c ∈ content, c ≠ '[' ∧ c ≠ ']'

theorem startsTag_iff {c : Char} :
    ('a' ≤ c && c ≤ 'z' || c == '#' || c == '/' || c == '@') = true ↔ StartsTag c := by
  simp [StartsTag, or_assoc]

theorem StartsTag.ne {c : Char} (starts : StartsTag c) : c ≠ '[' ∧ c ≠ ']' := by
  constructor
  · rintro rfl
    exact absurd starts (by decide)
  · rintro rfl
    exact absurd starts (by decide)

/-- A tag holds what stands before the bracket that closes it. -/
theorem tagContent?_eq_some_iff {rest content : List Char} :
    tagContent? rest = some content ↔ IsContent content ∧ content ++ [']'] <+: rest := by
  constructor
  · intro found
    unfold tagContent? at found
    split at found
    · contradiction
    · rename_i first others
      simp only [startsTag_iff, Option.ite_none_right_eq_some, Option.some.injEq, Bool.and_eq_true,
        beq_iff_eq] at found
      rcases found with ⟨⟨starts, closed⟩, rfl⟩
      constructor
      · refine ⟨first, _, List.takeWhile_cons_of_pos (by simp [starts.ne]), starts, ?_⟩
        intro c member
        simpa using List.mem_takeWhile_imp member
      · rcases exists_eq_takeWhile_append closed with ⟨after, parts⟩
        exact ⟨after, by rw [List.append_assoc, List.singleton_append, ← parts]⟩
  · rintro ⟨⟨first, others, rfl, starts, noBracket⟩, after, rfl⟩
    have run : (first :: others ++ ']' :: after).takeWhile (fun c => c != '[' && c != ']') =
        first :: others := by
      apply takeWhile_append_eq
      · intro c member
        simp [noBracket c member]
      · rintro c ⟨⟩
        rfl
    rw [List.append_assoc, List.singleton_append, List.cons_append, tagContent?]
    rw [List.cons_append] at run
    simp only [run, startsTag_iff.mpr starts]
    rw [← List.cons_append, List.drop_left]
    rfl

/-- How a text is scanned from one of its characters on: a backslash is counted, a character that
starts no tag is kept, and a tag is a part of its own, which is text after an odd number of
backslashes. -/
theorem scan_cons_cases (fuel position slashes : Nat) (reversed : List Char) (c : Char)
    (rest : List Char) :
    (c = '\\' ∧ scan (fuel + 1) position slashes reversed (c :: rest) =
      scan fuel (position + 1) (slashes + 1) reversed rest) ∨
    ((c = '[' → tagContent? rest = none) ∧
      scan (fuel + 1) position slashes reversed (c :: rest) =
        scan fuel (position + 1) 0 (c :: (List.replicate slashes '\\' ++ reversed)) rest) ∨
    ∃ content after token next, c = '[' ∧ tagContent? rest = some content ∧
      rest = content ++ ']' :: after ∧
      (token = .tag content position ∨
        slashes % 2 = 1 ∧ token = .text (plain ('[' :: content ++ [']']))) ∧
      scan (fuel + 1) position slashes reversed (c :: rest) =
        .text (plain reversed.reverse) :: .text (List.replicate (slashes / 2) '\\') :: token ::
          scan fuel next 0 [] after := by
  rw [scan]
  by_cases slash : c = '\\'
  · rw [if_pos (beq_iff_eq.mpr slash)]
    exact .inl ⟨slash, rfl⟩
  · rw [if_neg (mt beq_iff_eq.mp slash)]
    right
    split
    · rename_i noTag
      left
      constructor
      · rintro rfl
        exact noTag
      · rfl
    · rename_i content found
      right
      rcases ite_eq_iff.mp found with ⟨bracket, found⟩ | ⟨-, impossible⟩
      · rcases (tagContent?_eq_some_iff.mp found).2 with ⟨after, rfl⟩
        have drops : (content ++ [']'] ++ after).drop (content.length + 1) = after := by
          rw [List.drop_left' (by simp)]
        rw [drops]
        refine ⟨content, after, ?_⟩
        split
        · rename_i odd
          exact ⟨_, _, eq_of_beq bracket, found, by simp, .inr ⟨eq_of_beq odd, rfl⟩, rfl⟩
        · exact ⟨_, _, eq_of_beq bracket, found, by simp, .inl rfl, rfl⟩
      · cases impossible

/-- No closing tag stands in a text. -/
def ClosesNothing (text : List Char) : Prop :=
  ∀ name, IsContent ('/' :: name) → ¬closingStart ++ name ++ [']'] <:+: text

theorem ClosesNothing.of_suffix {text after : List Char} (closesNothing : ClosesNothing text)
    (suffix : after <:+ text) : ClosesNothing after :=
  fun name isContent found => closesNothing name isContent (found.trans suffix.isInfix)

/-- A message without a closing tag has no part that closes. -/
theorem harmless_of_mem_scan {fuel position slashes : Nat} {reversed rest : List Char}
    (closesNothing : ClosesNothing rest) {token : Token}
    (member : token ∈ scan fuel position slashes reversed rest) : token.Harmless := by
  induction fuel generalizing position slashes reversed rest with
  | zero => cases member
  | succ fuel ih =>
      cases rest with
      | nil =>
          cases List.mem_singleton.mp member
          trivial
      | cons c rest =>
          -- What is scanned next is a suffix of the text, so it holds no closing tag either.
          have onward := closesNothing.of_suffix (List.suffix_cons c rest)
          rcases scan_cons_cases fuel position slashes reversed c rest with
            ⟨-, scanned⟩ | ⟨-, scanned⟩ |
            ⟨content, after, tag, next, rfl, found, rfl, stands, scanned⟩
          · rw [scanned] at member
            exact ih onward member
          · rw [scanned] at member
            exact ih onward member
          · rw [scanned] at member
            simp only [List.mem_cons] at member
            rcases member with rfl | rfl | rfl | member
            · trivial
            · trivial
            · rcases stands with rfl | ⟨-, rfl⟩
              · intro closes
                rcases List.head?_eq_some_iff.mp closes with ⟨name, rfl⟩
                have isContent := (tagContent?_eq_some_iff.mp found).1
                exact closesNothing name isContent ⟨[], after, by simp [closingStart]⟩
              · trivial
            · refine ih (onward.of_suffix ?_) member
              exact (List.suffix_cons ']' after).trans (List.suffix_append ..)

end Markup

theorem exists_shown_of_strip {message : String}
    (stripped : ∃ text, Markup.strip [] (Markup.tokens message) = .ok text) :
    ∃ text, shown message = .ok text := by
  obtain ⟨text, stripped⟩ := stripped
  exact ⟨_, by rw [shown, stripped, Except.map]⟩

/-- A message that starts with a tag around a text is shown. -/
theorem exists_shown_of_enclosed {message : String} {content inner after : List Char}
    {opening closing : Nat} (opens : content.head? ≠ some '/')
    (named : (content.takeWhile (· != '=')).all Text.separatesWords = false)
    (scanned : Markup.tokens message =
      [.text [], .text [], .tag content opening, .text inner, .text [],
        .tag ('/' :: content) closing, .text after]) :
    ∃ text, shown message = .ok text := by
  apply exists_shown_of_strip
  rw [scanned]
  apply Markup.exists_strip_text
  apply Markup.exists_strip_text
  rw [Markup.strip_opening opens]
  apply Markup.exists_strip_text
  apply Markup.exists_strip_text
  rw [Markup.strip_closing named]
  exact Markup.exists_strip_text after ⟨[], rfl⟩

/-- A message without a closing tag is shown. -/
theorem exists_shown_of_closesNothing {message : String}
    (closesNothing : Markup.ClosesNothing message.toList) : ∃ text, shown message = .ok text := by
  apply exists_shown_of_strip
  have harmless : ∀ token ∈ Markup.tokens message, token.Harmless :=
    fun _ member => Markup.harmless_of_mem_scan closesNothing member
  exact Markup.exists_strip_eq_ok harmless []

end Typeset.Status
