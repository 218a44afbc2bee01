import Mathlib.Logic.Function.Iterate
import Typeset.Proofs.Markdown.Paragraph

/-!
# Nested quotations and lists

A line may start with any number of quotation marks or bullets, one inside the other.  A quotation
takes one of the levels of nesting and a list two, so that what lies deeper than twenty quotations
or ten lists is not shown.  Main statement: up to there a word is shown inside as many
quotations, or list items, as there are marks before it.
-/

namespace Typeset

open Text Styled

namespace Markdown

/-! ## Marks -/

/-- Signs with a space after each. -/
def marks (sign : Char) : Nat → List Char
  | 0 => []
  | depth + 1 => sign :: ' ' :: marks sign depth

/-- A word after nested marks. -/
def nested (sign : Char) (depth : Nat) (word : String) : String :=
  String.ofList (marks sign depth ++ word.toList)

/-- A word of ASCII letters. -/
structure IsWord (word : String) : Prop where
  nonempty : word.toList ≠ []
  letters : ∀ c ∈ word.toList, c.isAlpha = true

instance (word : String) : Decidable (IsWord word) :=
  decidable_of_iff (word.toList ≠ [] ∧ word.toList.all Char.isAlpha = true)
    ⟨fun ⟨nonempty, letters⟩ => ⟨nonempty, List.all_eq_true.mp letters⟩,
      fun isWord => ⟨isWord.nonempty, List.all_eq_true.mpr isWord.letters⟩⟩

theorem IsWord.prose {word : String} (isWord : IsWord word) : IsProse word where
  start := by
    cases chars : word.toList with
    | nil => exact absurd chars isWord.nonempty
    | cons first rest => exact isWord.letters first (by rw [chars]; exact List.mem_cons_self)
  chars c member := isProseChar_of_isAlpha (isWord.letters c member)
  last last := by
    have letter := isWord.letters ' ' (List.mem_of_getLast? last)
    contradiction

theorem marks_append (sign : Char) (depth : Nat) :
    marks sign depth ++ [sign, ' '] = marks sign (depth + 1) := by
  induction depth with
  | zero => rfl
  | succ depth ih =>
      rw [marks, List.cons_append, List.cons_append, ih]
      rfl

theorem length_marks (sign : Char) (depth : Nat) : (marks sign depth).length = 2 * depth := by
  induction depth with
  | zero => rfl
  | succ depth ih =>
      rw [marks, List.length_cons, List.length_cons, ih]
      omega

theorem mem_marks {sign c : Char} {depth : Nat} (member : c ∈ marks sign depth) :
    c = sign ∨ c = ' ' := by
  induction depth with
  | zero => contradiction
  | succ depth ih =>
      simp only [marks, List.mem_cons] at member
      rcases member with isSign | isSpace | member
      · exact .inl isSign
      · exact .inr isSpace
      · exact ih member

section Word

variable {word : String} (isWord : IsWord word) (sign : Char) (depth : Nat)

include isWord

/-- Neither marks nor a word start with a blank. -/
theorem head?_marks (notBlank : isBlank sign = false) :
    (marks sign depth ++ word.toList).head?.any isBlank = false := by
  cases depth with
  | zero =>
      obtain ⟨first, rest, chars, letter⟩ := isWord.prose.exists_cons
      rw [chars]
      exact isBlank_of_isAlpha letter
  | succ depth => exact notBlank

theorem marks_append_ne_nil : marks sign depth ++ word.toList ≠ [] := fun nothing =>
  isWord.nonempty (List.append_eq_nil_iff.mp nothing).2

end Word

/-! ## Levels -/

/-- A level holds readers for what lies one and two levels deeper. -/
theorem readLevels_succ (levels : Nat) :
    readLevels (levels + 1) = readContainer (readLevels levels) (readLevels (levels - 1)) := by
  cases levels <;> rfl

/-- At no level a line is dropped. -/
theorem readLevels_zero {frame : Frame} {line : Line} (notBlank : line.isBlank = false)
    (inside : frame.isOutdented line = false) : readLevels 0 frame [line] = ⟨[], [], 1, true⟩ := by
  have kept : [line].dropWhile Line.isBlank = [line] := by
    rw [List.dropWhile_cons, notBlank]
    rfl
  simp only [readLevels, readLevels.dropLevels, kept, inside, dropLines, List.length_singleton,
    Bool.false_eq_true, if_false]

/-! ## Quotations -/

/-- The only line of a quotation. -/
def quotedLine (column : Nat) (text : List Char) : Line :=
  { margin := [], column, indent := 0, text, ended := false }

/-- A word inside quotations, as far as the levels reach. -/
def nestedQuotes (word : List Char) : Nat → Nat → List (Block (List Char))
  | 0, _ => []
  | _ + 1, 0 => [.paragraph false word]
  | levels + 1, depth + 1 => [.quote (nestedQuotes word levels depth)]

theorem unquote_quotedLine (column : Nat) {text : List Char}
    (notBlank : text.head?.any isBlank = false) :
    (quotedLine column ('>' :: ' ' :: text)).unquote = quotedLine 2 text := by
  have noMargin : text.takeWhile isBlank = [] :=
    takeWhile_eq_nil ((Option.any_eq_false _ _).mp notBlank)
  simp only [Line.unquote, quotedLine, List.drop_succ_cons, List.drop_zero, noMargin]
  rfl

/-- A line of one word is a paragraph of it. -/
theorem readBlock_word {frame : Frame} (quoted item : Reader) {line : Line} {word : String}
    (isWord : IsWord word) (text : line.text = word.toList) (notCode : frame.isCode line = false)
    (noMargin : line.dropColumns frame.indent = word.toList) :
    frame.readBlock quoted item line [] = .ofBlock (.paragraph false word.toList) 1 := by
  have plain : ∀ other ∈ [line], StartsPlain other := by
    intro other member
    rw [List.mem_singleton.mp member]
    exact ⟨text ▸ isWord.prose.exists_cons, text ▸ isWord.prose.not_mem rfl⟩
  have trimmed := trim_prose (List.cons_ne_nil word []) (List.forall_mem_singleton.mpr isWord.prose)
  have joined : ("\n".intercalate [word]).toList = word.toList := by simp
  have linesText : linesText frame.indent [line] = word.toList := by
    rw [← noMargin]
    rfl
  rw [readBlock_of_startsPlain quoted item plain notCode, linesText]
  rw [joined] at trimmed
  rw [trimmed]
  rfl

theorem readBlock_quote (quoted item : Reader) (column : Nat) {text : List Char}
    (notBlank : text.head?.any isBlank = false) :
    Frame.outermost.readBlock quoted item (quotedLine column ('>' :: ' ' :: text)) [] =
      { quoted .outermost [quotedLine 2 text] with
        blocks := [.quote (quoted .outermost [quotedLine 2 text]).blocks] } := by
  have lines : Frame.outermost.quotedLines false [quotedLine column ('>' :: ' ' :: text)] =
      [quotedLine 2 text] := by
    rw [← unquote_quotedLine column notBlank]
    rfl
  have read : Frame.outermost.readBlock quoted item (quotedLine column ('>' :: ' ' :: text)) [] =
      Frame.outermost.readQuote quoted [quotedLine column ('>' :: ' ' :: text)] := rfl
  rw [read, Frame.readQuote, lines]
  rfl

/-- A line of nested quotations, read at some levels. -/
theorem readLevels_quotes {word : String} (isWord : IsWord word) (levels depth column : Nat) :
    readLevels levels .outermost [quotedLine column (marks '>' depth ++ word.toList)] =
      ⟨nestedQuotes word.toList levels depth, [], 1, true⟩ := by
  have notBlank : ∀ depth column,
      (quotedLine column (marks '>' depth ++ word.toList)).isBlank = false := fun depth column =>
    List.isEmpty_eq_false_iff.mpr (marks_append_ne_nil isWord '>' depth)
  induction levels generalizing depth column with
  | zero => exact readLevels_zero (notBlank depth column) rfl
  | succ levels ih =>
      rw [readLevels_succ]
      cases depth with
      | zero =>
          exact Frame.readContainer_of_readBlock (notBlank 0 column) rfl
            (readBlock_word _ _ isWord rfl rfl rfl) rfl
      | succ depth =>
          have read := readBlock_quote (readLevels levels) (readLevels (levels - 1)) column
            (head?_marks isWord '>' depth rfl)
          rw [ih] at read
          exact Frame.readContainer_of_readBlock (notBlank (depth + 1) column) rfl read rfl

/-! ## Lists -/

/-- The only line of a list item inside other items, whose marks stand in its margin. -/
def itemLine (outer : Nat) (text : List Char) : Line :=
  { margin := marks '-' outer, column := 0, indent := (2 * outer : Nat), text, ended := false }

/-- A word inside lists of one item, as far as the levels reach. -/
def nestedLists (word : List Char) : Nat → Nat → List (Block (List Char))
  | 0, _ => []
  | _ + 1, 0 => [.paragraph false word]
  | levels + 1, depth + 1 => [.bulletList [(nestedLists word levels depth).map Block.tighten]]

/-- A bullet with a text after it. -/
def bullet (text : List Char) : Marker :=
  ⟨none, '-', 1, ' ' :: text⟩

section Item

variable {frame : Frame} {outer : Nat} {text : List Char}

theorem takeWhile_isBlank_bullet (notBlank : text.head?.any isBlank = false) :
    (bullet text).rest.takeWhile isBlank = [' '] :=
  takeWhile_append_eq (List.forall_mem_singleton.mpr rfl) ((Option.any_eq_false _ _).mp notBlank)

theorem itemLine_bullet (notBlank : text.head?.any isBlank = false) :
    (bullet text).itemLine (itemLine outer ('-' :: ' ' :: text)) = itemLine (outer + 1) text := by
  have start : (itemLine outer ('-' :: ' ' :: text)).indent.toNat = 2 * outer := Int.toNat_natCast _
  have column : columnsAfter 0 (2 * outer + 1) [' '] = 2 * (outer + 1) := by
    rw [← List.replicate_one, columnsAfter_spaces]
    omega
  rw [Marker.itemLine, takeWhile_isBlank_bullet notBlank, start]
  simp only [itemLine, bullet, List.take_succ_cons, List.take_zero, List.append_assoc,
    List.singleton_append, marks_append, column, List.length_singleton, List.drop_succ_cons,
    List.drop_zero]

theorem isEmptyItem_bullet (nonempty : text ≠ []) (notBlank : text.head?.any isBlank = false) :
    (bullet text).isEmptyItem = false := by
  cases text with
  | nil => contradiction
  | cons first rest =>
      have first : isBlank first = false := notBlank
      rw [Marker.isEmptyItem, bullet, List.all_cons, List.all_cons, first, Bool.false_and,
        Bool.and_false]

theorem contentIndent_bullet (nonempty : text ≠ []) (notBlank : text.head?.any isBlank = false) :
    (bullet text).contentIndent (itemLine outer ('-' :: ' ' :: text)) = 2 * (outer + 1) := by
  have start : (itemLine outer ('-' :: ' ' :: text)).indent.toNat = 2 * outer := Int.toNat_natCast _
  have column : columnsAfter 0 (2 * outer + 1) [' '] = 2 * outer + 1 + 1 := by
    rw [← List.replicate_one, columnsAfter_spaces]
  rw [Marker.contentIndent, takeWhile_isBlank_bullet notBlank, start,
    isEmptyItem_bullet nonempty notBlank]
  simp only [bullet, itemLine, column]
  simp
  omega

theorem isCode_itemLine (columns : frame.indent = 2 * outer) :
    frame.isCode (itemLine outer text) = false := by
  simp [Frame.isCode, Frame.excess, itemLine, columns]

theorem isOutdented_itemLine (columns : frame.indent = 2 * outer) :
    frame.isOutdented (itemLine outer text) = false := by
  simp [Frame.isOutdented, itemLine, columns]

theorem dropColumns_itemLine (outer : Nat) (text : List Char) :
    (itemLine outer text).dropColumns (2 * outer) = text := by
  have noTab : '\t' ∉ marks '-' outer := by
    intro member
    rcases mem_marks member with isSign | isSpace <;> contradiction
  have margin := Line.marginAfter_all noTab 0 0
  rw [length_marks, Nat.zero_add] at margin
  rw [Line.dropColumns, itemLine, margin, List.nil_append]

/-- A line that starts with a bullet starts an item of the innermost list. -/
theorem marker?_itemLine (columns : frame.indent = 2 * outer) :
    frame.marker? (itemLine outer ('-' :: ' ' :: text)) = some (bullet text) := by
  have marker : Marker.ofText? ('-' :: ' ' :: text) = some (bullet text) := rfl
  rw [Frame.marker?, isCode_itemLine columns, isOutdented_itemLine columns]
  simp only [Bool.and_false, Bool.false_or]
  cases frame.outerIndent <;> exact marker

/-- An item that one line holds is read from what follows its bullet. -/
theorem readItems_bullet (item : Reader) (nonempty : text ≠ [])
    (notBlank : text.head?.any isBlank = false) {blocks : List (Block (List Char))}
    (read : item ⟨2 * (outer + 1), some frame.indent⟩ [itemLine (outer + 1) text] =
      ⟨blocks, [], 1, true⟩) :
    frame.readItems item (bullet text) 1 false (bullet text)
      [itemLine outer ('-' :: ' ' :: text)] = ⟨[blocks], [], 1, true⟩ := by
  have content : frame.readItem item (bullet text) (itemLine outer ('-' :: ' ' :: text)) [] =
      ⟨blocks, [], 1, true⟩ := by
    rw [Frame.readItem, isEmptyItem_bullet nonempty notBlank, Bool.false_and,
      if_neg Bool.false_ne_true, contentIndent_bullet nonempty notBlank, itemLine_bullet notBlank,
      read]
  rw [Frame.readItems, content]
  rfl

/-- Such a line is a list of one item. -/
theorem readBlock_bullet (quoted item : Reader) (columns : frame.indent = 2 * outer)
    (nonempty : text ≠ []) (notBlank : text.head?.any isBlank = false)
    (hasLetter : ∃ c ∈ text, c.isAlpha = true) {blocks : List (Block (List Char))}
    (read : item ⟨2 * (outer + 1), some frame.indent⟩ [itemLine (outer + 1) text] =
      ⟨blocks, [], 1, true⟩) :
    frame.readBlock quoted item (itemLine outer ('-' :: ' ' :: text)) [] =
      ⟨[.bulletList [blocks.map Block.tighten]], [], 1, true⟩ := by
  have notCode : frame.isCode (itemLine outer ('-' :: ' ' :: text)) = false :=
    isCode_itemLine columns
  have noTable : frame.tableHeader? (itemLine outer ('-' :: ' ' :: text)) [] = none := rfl
  have noFence : frame.fence? (itemLine outer ('-' :: ' ' :: text)) = none := by
    rw [Frame.fence?, notCode]
    rfl
  have noQuote : frame.startsQuote (itemLine outer ('-' :: ' ' :: text)) = false := by
    rw [Frame.startsQuote, notCode]
    rfl
  have otherSign : ('-' :: ' ' :: text).all (fun c => c == '-' || isBlank c) = false := by
    obtain ⟨c, member, letter⟩ := hasLetter
    refine List.all_eq_false.mpr ⟨c, List.mem_cons_of_mem _ (List.mem_cons_of_mem _ member), ?_⟩
    rw [beq_of_isAlpha letter '-' rfl, isBlank_of_isAlpha letter]
    exact Bool.false_ne_true
  have noRule : frame.isRule (itemLine outer ('-' :: ' ' :: text)) = false := by
    simp only [Frame.isRule, itemLine, otherSign, Bool.and_false, Bool.false_and]
  simp only [Frame.readBlock, noTable, notCode, noFence, noQuote, noRule,
    marker?_itemLine columns, Frame.readList, List.length_singleton,
    readItems_bullet item nonempty notBlank read, Bool.false_eq_true, if_false, if_true]
  rfl

end Item

/-- A line of nested items, read at some levels for lists. -/
theorem readLevels_lists {word : String} (isWord : IsWord word) (levels depth : Nat) {outer : Nat}
    {frame : Frame} (columns : frame.indent = 2 * outer) :
    readLevels (2 * levels) frame [itemLine outer (marks '-' depth ++ word.toList)] =
      ⟨nestedLists word.toList levels depth, [], 1, true⟩ := by
  have notBlank : ∀ depth outer,
      (itemLine outer (marks '-' depth ++ word.toList)).isBlank = false := fun depth outer =>
    List.isEmpty_eq_false_iff.mpr (marks_append_ne_nil isWord '-' depth)
  induction levels generalizing depth outer frame with
  | zero => exact readLevels_zero (notBlank depth outer) (isOutdented_itemLine columns)
  | succ levels ih =>
      have deeper : 2 * (levels + 1) = 2 * levels + 1 + 1 := by omega
      rw [deeper, readLevels_succ, Nat.add_sub_cancel]
      cases depth with
      | zero =>
          exact Frame.readContainer_of_readBlock (notBlank 0 outer) (isOutdented_itemLine columns)
            (readBlock_word _ _ isWord rfl (isCode_itemLine columns)
              (columns ▸ dropColumns_itemLine outer word.toList)) rfl
      | succ depth =>
          have hasLetter : ∃ c ∈ marks '-' depth ++ word.toList, c.isAlpha = true := by
            obtain ⟨first, rest, chars, letter⟩ := isWord.prose.exists_cons
            exact ⟨first, by simp [chars], letter⟩
          have read := @ih depth (outer + 1) ⟨2 * (outer + 1), some frame.indent⟩ rfl
          exact Frame.readContainer_of_readBlock (notBlank (depth + 1) outer)
            (isOutdented_itemLine columns)
            (readBlock_bullet _ _ columns (marks_append_ne_nil isWord '-' depth)
              (head?_marks isWord '-' depth rfl) hasLetter read) rfl

/-! ## Documents -/

/-- Running text without link definitions. -/
def runningText (text : List Char) : RunningText :=
  ⟨String.ofList text, readText [] text⟩

theorem inlines_runningText {word : String} (isWord : IsWord word) :
    (runningText word.toList).inlines = proseInlines [word] := by
  have read := readText_prose [] (List.cons_ne_nil word [])
    (List.forall_mem_singleton.mpr isWord.prose)
  have joined : ("\n".intercalate [word]).toList = word.toList := by simp
  rwa [joined] at read

theorem toList_nested (sign : Char) (depth : Nat) (word : String) :
    (nested sign depth word).toList = marks sign depth ++ word.toList :=
  String.toList_ofList

section Document

variable {word : String} (isWord : IsWord word) {sign : Char} (depth : Nat)

include isWord

/-- Marks and letters are all the characters of a nested word. -/
theorem mem_nested {c : Char} (member : c ∈ marks sign depth ++ word.toList) :
    c = sign ∨ c = ' ' ∨ c.isAlpha = true := by
  rcases List.mem_append.mp member with mark | letter
  · rcases mem_marks mark with isSign | isSpace
    · exact .inl isSign
    · exact .inr (.inl isSpace)
  · exact .inr (.inr (isWord.letters c letter))

/-- A nested word is one line. -/
theorem splitLines_nested (notFeed : sign ≠ '\n') (notBlank : isBlank sign = false) :
    splitLines (nested sign depth word).toList =
      [{ margin := [], column := 0, indent := 0, text := marks sign depth ++ word.toList,
         ended := false }] := by
  have isLine : '\n' ∉ marks sign depth ++ word.toList := by
    intro member
    rcases mem_nested isWord depth member with isSign | isSpace | letter
    · exact notFeed isSign.symm
    · contradiction
    · contradiction
  have hasLetter : (marks sign depth ++ word.toList).all isBlank = false := by
    obtain ⟨first, rest, chars, letter⟩ := isWord.prose.exists_cons
    refine List.all_eq_false.mpr ⟨first, by simp [chars], ?_⟩
    rw [isBlank_of_isAlpha letter]
    exact Bool.false_ne_true
  rw [toList_nested, splitLines_last isLine hasLetter]
  have head := head?_marks isWord sign depth notBlank
  have line := @Line.ofChars_append [] _ (List.forall_mem_nil _) head false
  exact congrArg (fun line => [line]) line

theorem isSource_nested (signs : sign = '>' ∨ sign = '-') : IsSource (nested sign depth word) := by
  intro c member
  rw [toList_nested] at member
  rcases mem_nested isWord depth member with rfl | rfl | letter
  · rcases signs with rfl | rfl <;> decide
  · decide
  · have isProse := isProseChar_of_isAlpha letter
    exact ⟨ne_of_isProseChar isProse '\r' rfl, toNat_ne_zero_of_isProseChar isProse⟩

end Document

/-- Nested quotations are read as far as twenty levels reach. -/
theorem read_quotes {word : String} (isWord : IsWord word) (depth : Nat) :
    Document.read (nested '>' depth word) =
      Block.mapAll runningText (nestedQuotes word.toList 20 depth) := by
  have structured : blockStructure (nested '>' depth word).toList =
      ⟨nestedQuotes word.toList 20 depth, [], 1, true⟩ := by
    rw [blockStructure, splitLines_nested isWord depth (by decide) rfl]
    exact readLevels_quotes isWord 20 depth 0
  rw [Document.read_of_blockStructure (isSource_nested isWord depth (.inl rfl)) structured]
  rfl

/-- Nested lists are read as far as twenty levels, two for each of them, reach. -/
theorem read_lists {word : String} (isWord : IsWord word) (depth : Nat) :
    Document.read (nested '-' depth word) =
      Block.mapAll runningText (nestedLists word.toList 10 depth) := by
  have structured : blockStructure (nested '-' depth word).toList =
      ⟨nestedLists word.toList 10 depth, [], 1, true⟩ := by
    rw [blockStructure, splitLines_nested isWord depth (by decide) rfl]
    exact @readLevels_lists word isWord 10 depth 0 .outermost rfl
  rw [Document.read_of_blockStructure (isSource_nested isWord depth (.inr rfl)) structured]
  rfl

end Markdown

/-! ## HTML -/

namespace Article

open Markdown Node

variable {settings : Settings}

/-- A block quotation whose font size is known. -/
def quoteHtml (size : String) (settings : Settings) (content : String) : String :=
  element "blockquote" (styleAttribute (quoteStyle size settings)) content ++ "\n"

/-- A list of one item. -/
def listHtml (settings : Settings) (content : String) : String :=
  element "ul" (styleAttribute (listStyle settings))
    ("\n" ++ (element "li" (styleAttribute listItemStyle) content ++ "\n")) ++ "\n"

/-- Quotations around a paragraph, of which the levels leave some. -/
def quotesHtml (size : String) (settings : Settings) (word : String) (levels depth : Nat) :
    String :=
  (quoteHtml size settings)^[min depth levels]
    (if depth < levels then paragraphHtml word settings else "")

/-- Lists around a word, of which the levels leave some. -/
def listsHtml (settings : Settings) (word : String) (levels depth : Nat) : String :=
  (listHtml settings)^[min depth levels] (if depth < levels then word else "")

/-- Letters are not escaped. -/
theorem escape_word {word : String} (isWord : IsWord word) : escape word = word := by
  have kept : ∀ c ∈ word.toList, escapeChar c = [c] := by
    intro c member
    have letter := isWord.letters c member
    simp only [escapeChar, beq_of_isAlpha letter '&' rfl, beq_of_isAlpha letter '<' rfl,
      beq_of_isAlpha letter '>' rfl, Bool.false_eq_true, if_false]
  have chars : word.toList.flatMap escapeChar = word.toList :=
    (List.flatMap_congr kept).trans (List.flatMap_singleton' _)
  rw [escape, chars, String.ofList_toList]

/-- A word is shown as it is. -/
theorem renderAll_word {word : String} (isWord : IsWord word) :
    renderAll .builtin settings (ofInlines (runningText word.toList).inlines) = .ok word := by
  have joined : "<br />\n".intercalate ([word].map escape) = word := by simp [escape_word isWord]
  rw [inlines_runningText isWord, renderAll_proseInlines, joined]

section Rendering

variable (checked : settings.Checked) {word : String} (isWord : IsWord word)

include checked isWord

/-- Nested quotations are rendered from the inside. -/
theorem renderAll_nestedQuotes {size : String} (sized : Style.quoteSize settings = .ok size)
    (levels depth : Nat) :
    renderAll .builtin settings
        (ofBlocks (Block.mapAll runningText (nestedQuotes word.toList levels depth))) =
      .ok (quotesHtml size settings word levels depth) := by
  induction levels generalizing depth with
  | zero => simp [nestedQuotes, Block.mapAll, ofBlocks, renderAll, quotesHtml]
  | succ levels ih =>
      cases depth with
      | zero =>
          have html : quotesHtml size settings word (levels + 1) 0 =
              paragraphHtml word settings := by simp [quotesHtml]
          rw [html]
          exact renderAll_singleton (render_paragraph checked (renderAll_word isWord))
      | succ depth =>
          have html : quotesHtml size settings word (levels + 1) (depth + 1) =
              quoteHtml size settings (quotesHtml size settings word levels depth) := by
            simp only [quotesHtml, Nat.succ_min_succ, Function.iterate_succ_apply',
              Nat.succ_lt_succ_iff]
          have styled : Styled.html (.blockquote (quotesHtml size settings word levels depth))
              settings = .ok (quotesHtml size settings word (levels + 1) (depth + 1)) := by
            rw [Styled.html, sized, html]
            rfl
          exact renderAll_singleton
            (render_of_styled? (role_ofBlock_ne_image _) (ih depth) rfl styled)

/-- Nested lists are rendered from the inside. -/
theorem renderAll_nestedLists (levels depth : Nat) :
    renderAll .builtin settings (ofBlocks (Block.mapAll runningText
        ((nestedLists word.toList levels depth).map Block.tighten))) =
      .ok (listsHtml settings word levels depth) := by
  obtain ⟨size, found⟩ := checked.renderable.size
  have writable : Style.requireWritable [settings.fontSize] = .ok () := by
    apply Style.requireWritable_eq_ok_iff.mpr
    simp [Number.isWritable_of_toBinary64? found]
  induction levels generalizing depth with
  | zero => simp [nestedLists, Block.mapAll, ofBlocks, renderAll, listsHtml]
  | succ levels ih =>
      cases depth with
      | zero =>
          have html : listsHtml settings word (levels + 1) 0 = word := by simp [listsHtml]
          have styled : Styled.html (.paragraph word true) settings = .ok word := rfl
          rw [html]
          exact renderAll_singleton (render_of_styled? (role_ofBlock_ne_image _)
            (renderAll_singleton (render_ofText (renderAll_word isWord))) rfl styled)
      | succ depth =>
          have html : listsHtml settings word (levels + 1) (depth + 1) =
              listHtml settings (listsHtml settings word levels depth) := by
            simp only [listsHtml, Nat.succ_min_succ, Function.iterate_succ_apply',
              Nat.succ_lt_succ_iff]
          have item : Styled.html (.listItem (listsHtml settings word levels depth)) settings =
              .ok (element "li" (styleAttribute listItemStyle)
                (listsHtml settings word levels depth) ++ "\n") := rfl
          have styled : Styled.html (.list false (element "li" (styleAttribute listItemStyle)
                (listsHtml settings word levels depth) ++ "\n") 1) settings =
              .ok (listsHtml settings word (levels + 1) (depth + 1)) := by
            rw [Styled.html, html]
            simp only [Bool.false_and, Bool.false_eq_true, if_false, writable, listHtml]
            simp [bind, Except.bind, pure, Except.pure]
          exact renderAll_singleton (render_of_styled? (role_ofBlock_ne_image _)
            (renderAll_singleton (render_of_styled? (by simp) (ih depth) rfl item)) rfl styled)

theorem fragment_quotes {size : String} (sized : Style.quoteSize settings = .ok size)
    (depth : Nat) :
    fragment .builtin (.text (nested '>' depth word)) settings =
      .ok (quotesHtml size settings word 20 depth) :=
  fragment_of_document (read_quotes isWord depth)
    (renderAll_nestedQuotes checked isWord sized 20 depth)

theorem fragment_lists {depth : Nat} (positive : 0 < depth) :
    fragment .builtin (.text (nested '-' depth word)) settings =
      .ok (listsHtml settings word 10 depth) := by
  obtain ⟨depth, rfl⟩ := Nat.exists_eq_add_of_le' positive
  exact fragment_of_document (read_lists isWord (depth + 1))
    (renderAll_nestedLists checked isWord 10 (depth + 1))

end Rendering

/-- Under checked settings a word after quotation marks is shown in a paragraph inside as many
quotations if they are fewer than twenty, and after bullets inside as many lists of one item if
they are fewer than ten.  Of more marks only the first twenty, or ten, have an element, the
innermost of which is empty. -/
theorem fragment_nested {settings : Settings} (checked : settings.Checked) {word : String}
    (isWord : IsWord word) (depth : Nat) :
    ∃ size, Style.quoteSize settings = .ok size ∧
      fragment .builtin (.text (nested '>' depth word)) settings =
        .ok ((quoteHtml size settings)^[min depth 20]
          (if depth < 20 then paragraphHtml word settings else "")) ∧
      (0 < depth → fragment .builtin (.text (nested '-' depth word)) settings =
        .ok ((listHtml settings)^[min depth 10] (if depth < 10 then word else ""))) := by
  obtain ⟨size, sized⟩ := Style.exists_scaledSize_eq_ok_iff.mpr checked.renderable.size
  exact ⟨size, sized, fragment_quotes checked isWord sized depth,
    fragment_lists checked isWord⟩

/-- Twelve quotations show their word, and twelve lists do not. -/
theorem fragment_nested_twelve :
    ({} : Settings).Checked ∧ IsWord "deep" ∧ 0 < 12 ∧
      ∃ size, Style.quoteSize {} = .ok size ∧
        fragment .builtin (.text (nested '>' 12 "deep")) {} =
          .ok ((quoteHtml size {})^[12] (paragraphHtml "deep" {})) ∧
        fragment .builtin (.text (nested '-' 12 "deep")) {} = .ok ((listHtml {})^[10] "") := by
  have checked : ({} : Settings).Checked := by decide +kernel
  have isWord : IsWord "deep" := by decide
  have positive : 0 < 12 := by decide
  obtain ⟨size, sized, quotes, lists⟩ := fragment_nested checked isWord 12
  exact ⟨checked, isWord, positive, size, sized, quotes, lists positive⟩

theorem quoteHtml_injective (size : String) (settings : Settings) :
    Function.Injective (quoteHtml size settings) := by
  intro first second equal
  simpa [quoteHtml, Styled.element, String.append_left_inj, String.append_right_inj] using equal

theorem listHtml_injective (settings : Settings) : Function.Injective (listHtml settings) := by
  intro first second equal
  simpa [listHtml, Styled.element, String.append_left_inj, String.append_right_inj] using equal

/-- The twentieth quotation and the tenth list are empty: not every nested word is shown. -/
theorem not_all_nested_shown :
    (¬ ∀ settings : Settings, settings.Checked → ∀ word, IsWord word → ∀ depth,
      ∃ size, Style.quoteSize settings = .ok size ∧
        fragment .builtin (.text (nested '>' depth word)) settings =
          .ok ((quoteHtml size settings)^[depth] (paragraphHtml word settings))) ∧
    ¬ ∀ settings : Settings, settings.Checked → ∀ word, IsWord word → ∀ depth, 0 < depth →
      ∃ before after, fragment .builtin (.text (nested '-' depth word)) settings =
        .ok ((listHtml settings)^[depth] (before ++ word ++ after)) := by
  have checked : ({} : Settings).Checked := by decide +kernel
  have isWord : IsWord "w" := by decide
  constructor
  · intro all
    obtain ⟨size, sized, shown⟩ := all {} checked "w" isWord 20
    have lost : fragment .builtin (.text (nested '>' 20 "w")) {} =
        .ok ((quoteHtml size {})^[20] "") :=
      fragment_quotes checked isWord sized 20
    rw [lost] at shown
    have same := (quoteHtml_injective size {}).iterate 20 (Except.ok.inj shown)
    have notEmpty : paragraphHtml "w" {} ≠ "" := by simp [paragraphHtml]
    exact notEmpty same.symm
  · intro all
    obtain ⟨before, after, shown⟩ := all {} checked "w" isWord 10 (by decide)
    have lost : fragment .builtin (.text (nested '-' 10 "w")) {} = .ok ((listHtml {})^[10] "") :=
      fragment_lists checked isWord (by decide)
    rw [lost] at shown
    have same := (listHtml_injective {}).iterate 10 (Except.ok.inj shown)
    simp at same

end Article

end Typeset
