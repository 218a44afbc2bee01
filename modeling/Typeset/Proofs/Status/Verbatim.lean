import Typeset.Proofs.Status.Markup

/-!
# Messages that are shown as they are

A message is shown as it is when nothing in it is read as markup: it holds no tag and no
backslash that stands before a bracket, calls no picture by its name, and has no character
that a terminal is not sent.  In a message without a colon, which calls no picture, each of
these is also needed.

Main statements: `shown_of_plain` and `shown_eq_self_iff`.
-/

namespace Typeset.Status

/-! ## Pictures -/

namespace Emoji

/-- A text that is read as a name when it stands between two colons. -/
def Nameable (name : List Char) : Prop :=
  ∀ c ∈ name, c ≠ ':' ∧ Text.separatesWords c = false

/-- No name that a text calls is the name of a picture.  Names are read from the left, and
the colon that ends a name starts no other one. -/
inductive Pictureless : List Char → Prop where
  | nil : Pictureless []
  | name {name rest : List Char} (nameable : Nameable name)
      (unknown : find? (splitForm name).1 = none) (others : Pictureless rest) :
      Pictureless (':' :: (name ++ ':' :: rest))
  | char {c : Char} {rest : List Char}
      (callsNone : c = ':' → ∀ name after, Nameable name → rest ≠ name ++ ':' :: after)
      (others : Pictureless rest) : Pictureless (c :: rest)

/-- What stands before a text calls no picture if it has no colon. -/
theorem Pictureless.append {before text : List Char} (noColon : ':' ∉ before)
    (pictureless : Pictureless text) : Pictureless (before ++ text) := by
  induction before with
  | nil => exact pictureless
  | cons c before ih =>
      have different := List.ne_of_not_mem_cons noColon
      exact .char (fun colon => absurd colon.symm different)
        (ih (List.not_mem_of_not_mem_cons noColon))

theorem pictureless_of_colon_not_mem {text : List Char} (noColon : ':' ∉ text) :
    Pictureless text := by
  rw [← List.append_nil text]
  exact Pictureless.nil.append noColon

theorem replaceUpTo_name {name rest : List Char} (nameable : Nameable name) (fuel : Nat) :
    replaceUpTo (fuel + 1) (':' :: (name ++ ':' :: rest)) =
      written name ++ replaceUpTo fuel rest := by
  have run : (name ++ ':' :: rest).takeWhile (fun c => c != ':' && !Text.separatesWords c) =
      name := by
    apply takeWhile_append_eq
    · intro c member
      simp [nameable c member]
    · rintro c ⟨⟩
      rfl
  simp only [replaceUpTo, run, List.drop_left, List.head?_cons, beq_self_eq_true, Bool.and_self,
    if_true, List.drop_succ_cons, List.drop_zero]

theorem replaceUpTo_char {c : Char} {rest : List Char}
    (callsNone : c = ':' → ∀ name after, Nameable name → rest ≠ name ++ ':' :: after)
    (fuel : Nat) : replaceUpTo (fuel + 1) (c :: rest) = c :: replaceUpTo fuel rest := by
  simp only [replaceUpTo]
  split
  · rename_i called
    rcases Bool.and_eq_true_iff.mp called with ⟨colon, closed⟩
    rcases exists_eq_takeWhile_append (eq_of_beq closed) with ⟨after, parts⟩
    refine absurd parts (callsNone (eq_of_beq colon) _ after ?_)
    intro c member
    simpa using List.mem_takeWhile_imp member
  · rfl

/-- A text that calls no picture is not changed. -/
theorem Pictureless.replaceUpTo_eq {text : List Char} (pictureless : Pictureless text)
    {fuel : Nat} (enough : text.length ≤ fuel) : replaceUpTo fuel text = text := by
  induction pictureless generalizing fuel with
  | nil => cases fuel <;> rfl
  | @name name rest nameable unknown others ih =>
      cases fuel with
      | zero => cases enough
      | succ fuel =>
          have asWritten : written name = ':' :: (name ++ [':']) := by
            unfold written
            dsimp only
            rw [unknown, Option.map_none, Option.getD_none, List.cons_append]
          have shorter : rest.length ≤ fuel := by
            simp only [List.length_cons, List.length_append] at enough
            omega
          rw [replaceUpTo_name nameable, ih shorter, asWritten, List.cons_append,
            List.append_assoc, List.singleton_append]
  | char callsNone others ih =>
      cases fuel with
      | zero => cases enough
      | succ fuel => rw [replaceUpTo_char callsNone, ih (Nat.le_of_succ_le_succ enough)]

theorem Pictureless.replace_eq {text : List Char} (pictureless : Pictureless text) :
    replace text = text :=
  pictureless.replaceUpTo_eq Nat.le.refl

end Emoji

/-! ## Tags -/

namespace Markup

/-- No tag stands in a text. -/
def Untagged (text : List Char) : Prop :=
  ∀ content, IsContent content → ¬ '[' :: (content ++ [']']) <:+: text

theorem untagged_cons_iff {c : Char} {rest : List Char} :
    Untagged (c :: rest) ↔ (c = '[' → tagContent? rest = none) ∧ Untagged rest := by
  rw [Untagged, Untagged]
  simp only [List.infix_cons_iff, not_or, List.cons_prefix_cons, not_and,
    Option.eq_none_iff_forall_ne_some, ne_eq, tagContent?_eq_some_iff]
  constructor
  · intro untagged
    refine ⟨?_, fun content isContent => (untagged content isContent).2⟩
    intro bracket content isContent
    exact (untagged content isContent).1 bracket.symm
  · rintro ⟨first, others⟩ content isContent
    exact ⟨fun bracket => first bracket.symm content isContent, others content isContent⟩

/-- A closing tag is a tag. -/
theorem Untagged.closesNothing {text : List Char} (untagged : Untagged text) :
    ClosesNothing text :=
  fun name isContent => untagged ('/' :: name) isContent

/-- The text of a part; a tag has none. -/
def Token.chars : Token → List Char
  | text chars => chars
  | tag _ _ => []

/-- The text of all parts, before pictures are put in. -/
def spoken (tokens : List Token) : List Char :=
  tokens.flatMap Token.chars

theorem plain_sublist (text : List Char) : (plain text).Sublist text := by
  fun_induction plain text with
  | case1 rest ih => exact (ih.cons_cons _).cons _
  | case2 c rest _ ih => exact ih.cons_cons _
  | case3 => exact .slnil

theorem plain_eq_self_iff {text : List Char} : plain text = text ↔ ¬['\\', '['] <:+: text := by
  fun_induction plain text with
  | case1 rest =>
      apply iff_of_false
      · rintro ⟨⟩
      · exact fun none => none ⟨[], rest, rfl⟩
  | case2 c rest notBoth ih =>
      rw [List.cons_inj_right, ih, List.infix_cons_iff, not_or, iff_and_self]
      rintro - ⟨after, split⟩
      rcases List.cons.inj split with ⟨slash, bracket⟩
      exact notBoth after slash.symm bracket.symm
  | case3 => simp

/-- What is scanned is spoken in order, less some characters. -/
theorem spoken_scan_sublist (fuel position slashes : Nat) (reversed rest : List Char) :
    (spoken (scan fuel position slashes reversed rest)).Sublist
      (reversed.reverse ++ (List.replicate slashes '\\' ++ rest)) := by
  induction fuel generalizing position slashes reversed rest with
  | zero => exact List.nil_sublist _
  | succ fuel ih =>
      cases rest with
      | nil =>
          rw [List.append_nil]
          simpa [scan, spoken, Token.chars] using plain_sublist _
      | cons c rest =>
          rcases scan_cons_cases fuel position slashes reversed c rest with
            ⟨rfl, scanned⟩ | ⟨-, scanned⟩ |
            ⟨content, after, token, next, rfl, -, rfl, stands, scanned⟩
          · rw [scanned]
            have onward := ih (position + 1) (slashes + 1) reversed rest
            rwa [List.replicate_succ', List.append_assoc] at onward
          · rw [scanned]
            have onward := ih (position + 1) 0 (c :: (List.replicate slashes '\\' ++ reversed)) rest
            simpa using onward
          · rw [scanned]
            have kept : token.chars.Sublist ('[' :: content ++ [']']) := by
              rcases stands with rfl | ⟨-, rfl⟩
              · exact List.nil_sublist _
              · exact plain_sublist _
            have halved : (List.replicate (slashes / 2) '\\').Sublist
                (List.replicate slashes '\\') :=
              (List.replicate_sublist_replicate _).mpr (Nat.div_le_self ..)
            have parts := (plain_sublist reversed.reverse).append
              (halved.append (kept.append (ih next 0 [] after)))
            simpa [spoken, Token.chars] using parts

/-- If nothing of a text is left out, it holds no tag: each tag is left out, or a backslash
before it is. -/
theorem untagged_of_length_spoken {fuel position slashes : Nat} {reversed rest : List Char}
    (enough : rest.length < fuel)
    (whole : (spoken (scan fuel position slashes reversed rest)).length =
      reversed.length + slashes + rest.length) : Untagged rest := by
  induction rest generalizing fuel position slashes reversed with
  | nil => simp [Untagged]
  | cons c rest ih =>
      cases fuel with
      | zero => cases enough
      | succ fuel =>
          have left : rest.length < fuel := Nat.lt_of_succ_lt_succ enough
          rw [List.length_cons] at whole
          rw [untagged_cons_iff]
          rcases scan_cons_cases fuel position slashes reversed c rest with
            ⟨rfl, scanned⟩ | ⟨noTag, scanned⟩ |
            ⟨content, after, token, next, rfl, -, rfl, stands, scanned⟩
          · rw [scanned] at whole
            exact ⟨by simp, ih left (whole.trans (by omega))⟩
          · rw [scanned] at whole
            refine ⟨noTag, ih left (whole.trans ?_)⟩
            simp only [List.length_cons, List.length_append, List.length_replicate]
            omega
          · have parts : (spoken (scan (fuel + 1) position slashes reversed
                ('[' :: (content ++ ']' :: after)))).length = (plain reversed.reverse).length +
                (slashes / 2 + (token.chars.length +
                  (spoken (scan fuel next 0 [] after)).length)) := by
              simp [scanned, spoken, Token.chars]
            have before := (plain_sublist reversed.reverse).length_le
            have later := (spoken_scan_sublist fuel next 0 [] after).length_le
            -- A tag is left out with its brackets, or a backslash before it is.
            have fewer : slashes / 2 + token.chars.length < slashes + (content.length + 2) := by
              rcases stands with rfl | ⟨odd, rfl⟩
              · rw [Token.chars, List.length_nil]
                omega
              · have kept := (plain_sublist ('[' :: content ++ [']'])).length_le
                simp only [List.cons_append, List.length_cons, List.length_append,
                  List.length_nil] at kept
                rw [Token.chars, List.cons_append]
                omega
            simp only [parts, List.length_reverse, List.length_append, List.length_cons,
              List.reverse_nil, List.replicate_zero, List.nil_append] at whole before later
            omega

/-- A text without tags is one part. -/
theorem scan_of_untagged {fuel : Nat} {rest : List Char} (untagged : Untagged rest)
    (enough : rest.length < fuel) (position slashes : Nat) (reversed : List Char) :
    scan fuel position slashes reversed rest =
      [.text (plain (reversed.reverse ++ (List.replicate slashes '\\' ++ rest)))] := by
  induction rest generalizing fuel position slashes reversed with
  | nil =>
      cases fuel with
      | zero => cases enough
      | succ fuel => rw [scan, List.append_nil]
  | cons c rest ih =>
      cases fuel with
      | zero => cases enough
      | succ fuel =>
          have left : rest.length < fuel := Nat.lt_of_succ_lt_succ enough
          rcases untagged_cons_iff.mp untagged with ⟨noTag, others⟩
          rcases scan_cons_cases fuel position slashes reversed c rest with
            ⟨rfl, scanned⟩ | ⟨-, scanned⟩ | ⟨content, after, -, -, bracket, found, -⟩
          · rw [scanned, ih others left, List.replicate_succ', List.append_assoc,
              List.singleton_append]
          · rw [scanned, ih others left]
            simp
          · cases found.symm.trans (noTag bracket)

/-! ## What is shown -/

/-- A tag leaves no text of its own. -/
theorem exists_strip_of_tag {opened : List (List Char)} {content : List Char} {position : Nat}
    {tokens : List Token} {text : List Char}
    (stripped : strip opened (.tag content position :: tokens) = .ok text) :
    ∃ others, strip others tokens = .ok text := by
  unfold strip at stripped
  split at stripped
  · dsimp only at stripped
    split at stripped
    · split at stripped
      · cases stripped
      · exact ⟨_, stripped⟩
    · split at stripped
      · exact ⟨_, stripped⟩
      · cases stripped
  · exact ⟨_, stripped⟩

/-- If no picture is called, what is left of the parts is what they speak. -/
theorem eq_spoken_of_strip {opened : List (List Char)} {tokens : List Token} {text : List Char}
    (noColon : ':' ∉ spoken tokens) (stripped : strip opened tokens = .ok text) :
    text = spoken tokens := by
  induction tokens generalizing opened text with
  | nil =>
      cases stripped
      rfl
  | cons token tokens ih =>
      rw [spoken, List.flatMap_cons, List.mem_append, not_or] at noColon
      rcases noColon with ⟨noColon, noColonLater⟩
      cases token with
      | text chars =>
          rcases map_eq_ok_iff.mp stripped with ⟨later, strippedLater, rfl⟩
          dsimp only [Token.chars] at noColon
          rw [(Emoji.pictureless_of_colon_not_mem noColon).replace_eq,
            ih noColonLater strippedLater]
          rfl
      | tag content position =>
          rcases exists_strip_of_tag stripped with ⟨others, stripped⟩
          exact ih noColonLater stripped

end Markup

/-- Nothing in a text is read as markup. -/
structure Plain (text : List Char) : Prop where
  untagged : Markup.Untagged text
  unescaped : ¬['\\', '['] <:+: text
  pictureless : Emoji.Pictureless text
  printable : ∀ c ∈ text, Markup.isControl c = false

/-- A character that is never part of markup. -/
def IsOrdinary (c : Char) : Prop :=
  c ≠ '[' ∧ c ≠ '\\' ∧ c ≠ ':' ∧ Markup.isControl c = false

instance (c : Char) : Decidable (IsOrdinary c) :=
  inferInstanceAs (Decidable (_ ∧ _))

/-- A text of ordinary characters. -/
def Ordinary (text : List Char) : Prop :=
  ∀ c ∈ text, IsOrdinary c

instance (text : List Char) : Decidable (Ordinary text) :=
  List.decidableBAll IsOrdinary text

/-- What stands before a text has no part in a piece that starts with a character that it
does not hold. -/
theorem infix_append_iff_of_not_mem {c : Char} {piece before text : List Char}
    (missing : c ∉ before) : c :: piece <:+: before ++ text ↔ c :: piece <:+: text := by
  induction before with
  | nil => rfl
  | cons first before ih =>
      rw [List.cons_append, List.infix_cons_iff, ih (List.not_mem_of_not_mem_cons missing),
        or_iff_right]
      intro start
      exact List.ne_of_not_mem_cons missing (List.cons_prefix_cons.mp start).1

/-- An ordinary text before another one makes no markup of it. -/
theorem Plain.append {before text : List Char} (ordinary : Ordinary before) (plain : Plain text) :
    Plain (before ++ text) := by
  have noBracket : '[' ∉ before := fun member => (ordinary _ member).1 rfl
  have noSlash : '\\' ∉ before := fun member => (ordinary _ member).2.1 rfl
  have noColon : ':' ∉ before := fun member => (ordinary _ member).2.2.1 rfl
  constructor
  · intro content isContent
    rw [infix_append_iff_of_not_mem noBracket]
    exact plain.untagged content isContent
  · rw [infix_append_iff_of_not_mem noSlash]
    exact plain.unescaped
  · exact plain.pictureless.append noColon
  · rw [List.forall_mem_append]
    exact ⟨fun c member => (ordinary c member).2.2.2, plain.printable⟩

/-- An ordinary text is not read as markup. -/
theorem Ordinary.plain {text : List Char} (ordinary : Ordinary text) : Plain text := by
  have empty : Plain [] := ⟨by simp [Markup.Untagged], by simp, .nil, nofun⟩
  rw [← List.append_nil text]
  exact empty.append ordinary

section Shown

variable {message text : String}

/-- A message without markup is shown as it is. -/
theorem shown_of_plain (plain : Plain message.toList) : shown message = .ok message := by
  have tokens := Markup.scan_of_untagged plain.untagged (Nat.lt_succ_self _) 0 0 []
  have printed : message.toList.filter (fun c => !Markup.isControl c) = message.toList := by
    rw [List.filter_eq_self]
    intro c member
    simp [plain.printable c member]
  simp only [shown, Markup.tokens, tokens, List.reverse_nil, List.replicate_zero,
    List.nil_append, Markup.plain_eq_self_iff.mpr plain.unescaped, Markup.strip, Except.map,
    plain.pictureless.replace_eq, List.append_nil, printed, String.ofList_toList]

theorem spoken_tokens_sublist (message : String) :
    (Markup.spoken (Markup.tokens message)).Sublist message.toList :=
  Markup.spoken_scan_sublist _ 0 0 [] message.toList

/-- Of a message without a colon the terminal is sent what is spoken, less some characters. -/
theorem toList_of_shown (noColon : ':' ∉ message.toList) (shows : shown message = .ok text) :
    text.toList =
      (Markup.spoken (Markup.tokens message)).filter fun c => !Markup.isControl c := by
  rcases map_eq_ok_iff.mp shows with ⟨whole, stripped, rfl⟩
  rw [String.toList_ofList,
    Markup.eq_spoken_of_strip (mt (spoken_tokens_sublist message).mem noColon) stripped]

theorem toList_sublist_of_shown (noColon : ':' ∉ message.toList)
    (shows : shown message = .ok text) : text.toList.Sublist message.toList := by
  rw [toList_of_shown noColon shows]
  exact List.filter_sublist.trans (spoken_tokens_sublist message)

/-- If a message without a colon is shown as it is, all of it is spoken and goes to the
terminal. -/
theorem whole_of_shown (noColon : ':' ∉ message.toList) (same : shown message = .ok message) :
    Markup.spoken (Markup.tokens message) = message.toList ∧
      ∀ c ∈ message.toList, Markup.isControl c = false := by
  have sent := toList_of_shown noColon same
  -- Each step leaves characters out, and in the end there are as many as at first.
  have spoken : Markup.spoken (Markup.tokens message) = message.toList := by
    apply (spoken_tokens_sublist message).eq_of_length_le
    conv => lhs; rw [sent]
    exact List.length_filter_le ..
  rw [spoken] at sent
  constructor
  · exact spoken
  · intro c member
    simpa using List.filter_eq_self.mp sent.symm c member

/-- In a message without a colon only what is no markup is shown as it is. -/
theorem shown_eq_self_iff (noColon : ':' ∉ message.toList) :
    shown message = .ok message ↔ Plain message.toList := by
  constructor
  · intro same
    have enough := Nat.lt_succ_self message.toList.length
    rcases whole_of_shown noColon same with ⟨spoken, printable⟩
    have untagged : Markup.Untagged message.toList := by
      apply Markup.untagged_of_length_spoken enough
      rw [← Markup.tokens, spoken, List.length_nil, Nat.zero_add]
    constructor
    · exact untagged
    · rw [Markup.tokens, Markup.scan_of_untagged untagged enough] at spoken
      rw [← Markup.plain_eq_self_iff]
      simpa [Markup.spoken, Markup.Token.chars] using spoken
    · exact Emoji.pictureless_of_colon_not_mem noColon
    · exact printable
  · exact shown_of_plain

end Shown

end Typeset.Status
