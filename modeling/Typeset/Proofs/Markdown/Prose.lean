import Typeset.Proofs.Markdown.Lines

/-!
# Prose

Running text of letters, spaces, quotation marks, angle brackets and ampersands has no spans: an
angle bracket starts no address without a colon or an at sign, and an ampersand no reference
without a semicolon.  Main statement: lines of such text are read as texts with soft breaks
between them.
-/

namespace Typeset.Markdown

open Text

/-! ## Characters -/

/-- ASCII letters, spaces, double quotes, angle brackets and ampersands. -/
def isProseChar (c : Char) : Bool :=
  c.isAlpha || c == ' ' || c == '<' || c == '>' || c == '&' || c == '\x22'

theorem ne_of_isProseChar {c : Char} (prose : isProseChar c = true) (special : Char)
    (notProse : isProseChar special = false) : c ≠ special := by
  rintro rfl
  rw [prose] at notProse
  contradiction

theorem toNat_ne_zero_of_isProseChar {c : Char} (prose : isProseChar c = true) : c.toNat ≠ 0 := by
  intro null
  have zero : c = Char.ofNat 0 := by rw [← null, Char.ofNat_toNat]
  exact ne_of_isProseChar prose (Char.ofNat 0) rfl zero

/-- A line of prose: it starts with a letter and does not end in a space. -/
structure IsProse (line : String) : Prop where
  start : line.toList.head?.any Char.isAlpha = true
  chars : ∀ c ∈ line.toList, isProseChar c = true
  last : line.toList.getLast? ≠ some ' '

instance (line : String) : Decidable (IsProse line) :=
  decidable_of_iff (line.toList.head?.any Char.isAlpha = true ∧
      line.toList.all isProseChar = true ∧ line.toList.getLast? ≠ some ' ')
    ⟨fun ⟨start, chars, last⟩ => ⟨start, List.all_eq_true.mp chars, last⟩,
      fun prose => ⟨prose.start, List.all_eq_true.mpr prose.chars, prose.last⟩⟩

theorem IsProse.not_mem {line : String} (prose : IsProse line) {special : Char}
    (notProse : isProseChar special = false) : special ∉ line.toList := fun member =>
  ne_of_isProseChar (prose.chars special member) special notProse rfl

/-- The first letter of a line of prose. -/
theorem IsProse.exists_cons {line : String} (prose : IsProse line) :
    ∃ first rest, line.toList = first :: rest ∧ first.isAlpha = true := by
  have start := prose.start
  cases chars : line.toList with
  | nil => simp [chars] at start
  | cons first rest =>
      rw [chars] at start
      exact ⟨first, rest, rfl, start⟩

/-- Letters are prose, and no blanks. -/
theorem isProseChar_of_isAlpha {c : Char} (letter : c.isAlpha = true) : isProseChar c = true := by
  simp [isProseChar, letter]

theorem isBlank_of_isAlpha {c : Char} (letter : c.isAlpha = true) : isBlank c = false := by
  simp only [isBlank, Bool.or_eq_false_iff, beq_eq_false_iff_ne]
  constructor
  · rintro rfl
    contradiction
  · rintro rfl
    contradiction

/-- A text of prose, in which no line starts with a blank. -/
def IsProseText : List Char → Prop
  | [] => True
  | c :: rest =>
      (isProseChar c = true ∨ c = '\n' ∧ rest.head?.any isBlank = false) ∧ IsProseText rest

namespace IsProseText

variable {text rest : List Char}

theorem drop (prose : IsProseText text) (count : Nat) : IsProseText (text.drop count) := by
  induction count generalizing text with
  | zero => exact prose
  | succ count ih =>
      cases text with
      | nil => exact prose
      | cons c text => exact ih prose.2

theorem append (chars : ∀ c ∈ text, isProseChar c = true) (prose : IsProseText rest) :
    IsProseText (text ++ rest) := by
  induction text with
  | nil => exact prose
  | cons c text ih =>
      obtain ⟨isProse, others⟩ := List.forall_mem_cons.mp chars
      exact ⟨.inl isProse, ih others⟩

theorem mem (prose : IsProseText text) {c : Char} (member : c ∈ text) :
    isProseChar c = true ∨ c = '\n' := by
  induction text with
  | nil => contradiction
  | cons first text ih =>
      rcases List.mem_cons.mp member with rfl | member
      · exact prose.1.imp_right And.left
      · exact ih prose.2 member

theorem not_mem (prose : IsProseText text) {special : Char} (notFeed : special ≠ '\n')
    (notProse : isProseChar special = false) : special ∉ text := by
  intro member
  rcases prose.mem member with isProse | feed
  · exact ne_of_isProseChar isProse special notProse rfl
  · exact notFeed feed

/-- Lines of prose are such a text. -/
theorem of_lines {lines : List String} (prose : ∀ line ∈ lines, IsProse line) :
    IsProseText ("\n".intercalate lines).toList := by
  induction lines with
  | nil => trivial
  | cons line lines ih =>
      obtain ⟨isProse, others⟩ := List.forall_mem_cons.mp prose
      cases lines with
      | nil =>
          have nothing : IsProseText [] := trivial
          simpa using append isProse.chars nothing
      | cons next lines =>
          rw [toList_intercalate]
          refine append isProse.chars ⟨.inr ⟨rfl, ?_⟩, ih others⟩
          obtain ⟨first, rest, chars, letter⟩ := (others next List.mem_cons_self).exists_cons
          obtain ⟨after, joined⟩ := exists_toList_intercalate next lines
          rw [joined, chars]
          exact isBlank_of_isAlpha letter

end IsProseText

/-! ## Spans -/

namespace Span

theorem addressOf?_eq_none {text : List Char} (noColon : ':' ∉ text) (noAt : '@' ∉ text) :
    addressOf? text = none := by
  have kept : ∀ {c : Char} {line : List Char}, c ∉ text →
      line = (if text.getLast? == some '\n' then text.dropLast else text) → c ∉ line := by
    rintro c line missing rfl
    split
    · exact fun member => missing ((List.dropLast_sublist text).mem member)
    · exact missing
  rw [addressOf?]
  generalize lineEq : (if text.getLast? == some '\n' then text.dropLast else text) = line
  have noColon : ':' ∉ line := kept noColon lineEq.symm
  have noAt : '@' ∉ line := kept noAt lineEq.symm
  have notAbsolute : isAbsolute line = false := by
    unfold isAbsolute
    dsimp only
    split
    · rename_i rest after
      exact absurd (List.mem_of_mem_drop (after ▸ List.mem_cons_self)) noColon
    · rfl
  have notMail : isMailAddress line = false := by
    have mailbox : line.takeWhile (· != '@') = line :=
      List.takeWhile_eq_self_iff.mpr fun c member =>
        bne_iff_ne.mpr (ne_of_mem_of_not_mem member noAt)
    simp [isMailAddress, mailbox]
  rw [notAbsolute, notMail]
  rfl

theorem autolink?_eq_none {rest : List Char} (noColon : ':' ∉ rest) (noAt : '@' ∉ rest) :
    autolink? rest = none := by
  have inside : ∀ {c : Char}, c ∉ rest → c ∉ rest.takeWhile fun c => c != '<' && c != '>' :=
    fun missing member => missing ((List.takeWhile_sublist _).mem member)
  unfold autolink?
  dsimp only
  split
  · rw [addressOf?_eq_none (inside noColon) (inside noAt)]
  · rfl

theorem reference?_eq_none {rest : List Char} (noHash : '#' ∉ rest) (noSemicolon : ';' ∉ rest) :
    reference? rest = none := by
  have noName : nameReference? rest = none := by
    unfold nameReference?
    dsimp only
    split
    · rename_i after found
      exact absurd (List.mem_of_mem_drop (found ▸ List.mem_cons_self)) noSemicolon
    · rfl
  unfold reference?
  split
  · exact absurd List.mem_cons_self noHash
  · rw [noName]

/-- Nothing starts at the special characters of prose. -/
theorem find?_eq_none {c : Char} {rest : List Char} (special : isSpecial c = true)
    (isProse : isProseChar c = true) (prose : IsProseText rest) : find? (c :: rest) = none := by
  have other (sign : Char) (notProse : isProseChar sign = false) : (c == sign) = false :=
    beq_false_of_ne (ne_of_isProseChar isProse sign notProse)
  have without (sign : Char) (notFeed : sign ≠ '\n') (notProse : isProseChar sign = false) :
      sign ∉ rest :=
    prose.not_mem notFeed notProse
  have address := autolink?_eq_none (without ':' (by decide) rfl) (without '@' (by decide) rfl)
  have reference := reference?_eq_none (without '#' (by decide) rfl) (without ';' (by decide) rfl)
  simp only [find?, special, other '\n' rfl, other '\\' rfl, address, reference, Bool.not_true,
    Bool.false_eq_true, if_false, ite_self]

/-- Characters without a meaning of their own are one span. -/
theorem find?_plain {c : Char} {rest : List Char} (notSpecial : isSpecial c = false) :
    ∃ plain after, c :: rest = (c :: plain) ++ after ∧ '\n' ∉ c :: plain ∧
      find? (c :: rest) = some (.plain (c :: plain), (c :: plain).length) := by
  have taken : (c :: rest).takeWhile (fun c => !isSpecial c) =
      c :: rest.takeWhile fun c => !isSpecial c := by
    rw [List.takeWhile_cons, notSpecial]
    rfl
  refine ⟨rest.takeWhile fun c => !isSpecial c, rest.dropWhile fun c => !isSpecial c, ?_, ?_, ?_⟩
  · rw [List.cons_append, List.takeWhile_append_dropWhile]
  · rw [← taken]
    intro member
    have notSpecial := List.mem_takeWhile_imp member
    contradiction
  · simp only [find?, notSpecial, taken, Bool.not_false, if_true]

/-- A line feed takes no blanks where none follow it. -/
theorem find?_lineFeed {rest : List Char} (noMargin : rest.head?.any isBlank = false) :
    find? ('\n' :: rest) = some (.lineFeed, 1) := by
  have nothing : rest.takeWhile isBlank = [] :=
    takeWhile_eq_nil ((Option.any_eq_false _ _).mp noMargin)
  have found : find? ('\n' :: rest) = some (lineFeed? rest) := rfl
  rw [found, lineFeed?, nothing]
  rfl

end Span

/-! ## Pieces -/

theorem spanAt?_eq_pure {cursor : Cursor} (notTick : cursor.rest.head? ≠ some backtick) :
    spanAt? cursor = pure (Span.find? cursor.rest) := by
  rw [spanAt?, if_neg (by simpa using notTick)]

/-- No run of emphasis signs starts with a character of prose. -/
theorem run?_eq_none {cursor : Cursor} {c : Char} {rest : List Char} (at_ : cursor.rest = c :: rest)
    (isProse : isProseChar c = true) : run? cursor = none := by
  have other (sign : Char) (notProse : isProseChar sign = false) : (c == sign) = false :=
    beq_false_of_ne (ne_of_isProseChar isProse sign notProse)
  unfold run?
  rw [at_]
  simp only [other '*' rfl, other '_' rfl, other '~' rfl, Bool.false_or, Bool.false_and,
    Bool.false_eq_true, if_false]

/-- No link or image starts with a character of prose. -/
theorem linked?_eq_pure {labels : Labels} {skip : Skip} {definitions : List Definition}
    {cursor : Cursor} {c : Char} {rest : List Char} (at_ : cursor.rest = c :: rest)
    (isProse : isProseChar c = true) : linked? labels skip definitions cursor = pure none := by
  unfold linked?
  rw [at_]
  split
  · rename_i label equal
    exact absurd (List.cons.inj equal).1 (ne_of_isProseChar isProse '[' rfl)
  · rename_i label equal
    exact absurd (List.cons.inj equal).1 (ne_of_isProseChar isProse '!' rfl)
  · rfl

/-- The pieces of prose: its lines and the breaks between them; `reversed` holds the characters
before the text on the same line. -/
def prosePieces (reversed : List Char) : List Char → List Piece
  | [] => flush reversed
  | c :: rest =>
      if c == '\n' then breakLine reversed ++ prosePieces [] rest
      else prosePieces (c :: reversed) rest

theorem prosePieces_append {text : List Char} (isLine : '\n' ∉ text) (reversed rest : List Char) :
    prosePieces reversed (text ++ rest) = prosePieces (text.reverse ++ reversed) rest := by
  induction text generalizing reversed with
  | nil => rfl
  | cons c text ih =>
      obtain ⟨notFeed, isLine⟩ := not_or.mp (List.mem_cons.not.mp isLine)
      rw [List.cons_append, prosePieces, if_neg (by simpa using Ne.symm notFeed), ih isLine,
        List.reverse_cons, List.append_assoc, List.singleton_append]

/-- Prose is cut into its pieces. -/
theorem pieces_eq_pure {labels : Labels} {skip : Skip} {definitions : List Definition} {fuel : Nat}
    (reversed : List Char) {cursor : Cursor} (prose : IsProseText cursor.rest)
    (enough : cursor.rest.length ≤ fuel) :
    pieces labels skip definitions fuel reversed cursor =
      pure (prosePieces reversed cursor.rest) := by
  induction fuel generalizing reversed cursor with
  | zero =>
      rw [List.eq_nil_of_length_eq_zero (Nat.le_zero.mp enough)]
      rfl
  | succ fuel ih =>
      have noTick : cursor.rest.head? ≠ some backtick := fun head =>
        prose.not_mem (by decide) rfl (List.mem_of_mem_head? head)
      rw [pieces, spanAt?_eq_pure noTick, pure_bind]
      cases at_ : cursor.rest with
      | nil => rfl
      | cons c rest =>
          have onward : (cursor.advance 1).rest = rest := congrArg (List.drop 1) at_
          rw [at_] at prose enough
          have fewer : rest.length ≤ fuel := Nat.le_of_succ_le_succ enough
          by_cases special : isSpecial c = true
          · rcases prose.1 with isProse | ⟨rfl, noMargin⟩
            · rw [Span.find?_eq_none special isProse prose.2]
              simp only [run?_eq_none at_ isProse, linked?_eq_pure at_ isProse, pure_bind]
              rw [ih _ (onward.symm ▸ prose.2) (onward.symm ▸ fewer), onward, prosePieces,
                if_neg (by simpa using ne_of_isProseChar isProse '\n' rfl)]
            · rw [Span.find?_lineFeed noMargin]
              dsimp only
              rw [ih _ (onward.symm ▸ prose.2) (onward.symm ▸ fewer), onward, pure_bind,
                prosePieces, if_pos (beq_self_eq_true '\n')]
          · obtain ⟨plain, after, cut, isLine, found⟩ :=
              @Span.find?_plain c rest (Bool.eq_false_iff.mpr special)
            have further : (cursor.advance (c :: plain).length).rest = after := by
              rw [Cursor.advance, at_, cut, List.drop_left]
            have proseAfter : IsProseText after := by
              have dropped := prose.drop (c :: plain).length
              rwa [cut, List.drop_left] at dropped
            have shorter : after.length ≤ fuel := by
              have count := congrArg List.length cut
              simp only [List.length_append, List.length_cons] at count enough
              omega
            rw [found]
            dsimp only
            rw [ih _ (further.symm ▸ proseAfter) (further.symm ▸ shorter), further, cut,
              prosePieces_append isLine]

/-! ## Reading -/

/-- Lines as running text, with a soft break between them. -/
def proseInlines (lines : List String) : List Inline :=
  (lines.map Inline.text).intersperse .softBreak

theorem prosePieces_lines {lines : List String} (nonempty : lines ≠ [])
    (prose : ∀ line ∈ lines, IsProse line) :
    prosePieces [] ("\n".intercalate lines).toList = (proseInlines lines).map Piece.inline := by
  induction lines with
  | nil => contradiction
  | cons line lines ih =>
      obtain ⟨isProse, others⟩ := List.forall_mem_cons.mp prose
      have isLine : '\n' ∉ line.toList := isProse.not_mem rfl
      have notEmpty : line.toList ≠ [] := by
        obtain ⟨first, rest, chars, -⟩ := isProse.exists_cons
        rw [chars]
        exact List.cons_ne_nil first rest
      have flushed : flush line.toList.reverse = [.inline (.text line)] := by
        rw [flush, if_neg (by simpa using notEmpty), List.reverse_reverse, String.ofList_toList]
      cases lines with
      | nil =>
          have cut := prosePieces_append isLine [] []
          rw [List.append_nil, List.append_nil, prosePieces, flushed] at cut
          simpa [proseInlines] using cut
      | cons next lines =>
          have noSpaces : line.toList.reverse.takeWhile (· == ' ') = [] := by
            apply takeWhile_eq_nil
            intro c last
            rw [List.head?_reverse] at last
            exact beq_false_of_ne fun space => isProse.last (space ▸ last)
          have broken : breakLine line.toList.reverse =
              [.inline (.text line), .inline .softBreak] := by
            rw [breakLine, noSpaces]
            simp only [List.length_nil, List.drop_zero, flushed]
            rfl
          rw [toList_intercalate, prosePieces_append isLine, List.append_nil, prosePieces,
            if_pos (beq_self_eq_true '\n'), ih (List.cons_ne_nil next lines) others, broken]
          rfl

namespace Emphasis

theorem foldl_addPiece (inlines : List Inline) (base : List Item) :
    (inlines.map Piece.inline).foldl State.addPiece ⟨base, []⟩ =
      ⟨(inlines.map fun inline => ⟨inline, none⟩).reverse ++ base, []⟩ := by
  induction inlines generalizing base with
  | nil => rfl
  | cons inline inlines ih =>
      have added : State.addPiece ⟨base, []⟩ (.inline inline) = ⟨⟨inline, none⟩ :: base, []⟩ := rfl
      rw [List.map_cons, List.foldl_cons, added, ih, List.map_cons, List.reverse_cons,
        List.append_assoc, List.singleton_append]

/-- Running text without runs of emphasis signs has its texts joined, and nothing else. -/
theorem resolve_inlines (inlines : List Inline) :
    resolve (inlines.map Piece.inline) = Inline.joinTexts inlines := by
  rw [resolve, State.start, foldl_addPiece, State.finish]
  simp [Emphasis.inlines, State.unopened, Function.comp_def]

end Emphasis

theorem joinTexts_proseInlines (lines : List String) :
    Inline.joinTexts (proseInlines lines) = proseInlines lines := by
  induction lines with
  | nil => rfl
  | cons line lines ih =>
      cases lines with
      | nil => rfl
      | cons next lines =>
          have cut : proseInlines (line :: next :: lines) =
              .text line :: .softBreak :: proseInlines (next :: lines) := rfl
          have joined :
              Inline.joinTexts (.text line :: .softBreak :: proseInlines (next :: lines)) =
                .text line :: .softBreak :: Inline.joinTexts (proseInlines (next :: lines)) := by
            simp only [Inline.joinTexts]
          rw [cut, joined, ih]

/-- Nothing is known of a text when it is read. -/
theorem readNested_succ (definitions : List Definition) (images : Nat) (text : List Char) :
    readNested definitions (images + 1) text =
      (inlines (readNested definitions images) definitions nestedLinks (Cursor.start text)
        Memo.empty).1 :=
  rfl

/-- Lines of prose are read as texts with soft breaks between them. -/
theorem readText_prose (definitions : List Definition) {lines : List String}
    (nonempty : lines ≠ []) (prose : ∀ line ∈ lines, IsProse line) :
    readText definitions ("\n".intercalate lines).toList = proseInlines lines := by
  have isText := IsProseText.of_lines prose
  have start : (Cursor.start ("\n".intercalate lines).toList).rest =
      ("\n".intercalate lines).toList := rfl
  have read (image : List Char → List Inline) :
      inlines image definitions nestedLinks (Cursor.start ("\n".intercalate lines).toList) =
        pure (proseInlines lines) := by
    rw [nestedLinks, inlines, pieces_eq_pure [] isText le_rfl, pure_bind, start,
      prosePieces_lines nonempty prose, Emphasis.resolve_inlines, joinTexts_proseInlines]
  rw [readText, readNested_succ, read]
  rfl

end Typeset.Markdown
