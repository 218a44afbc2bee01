import Typeset.Proofs.Markdown.Blocks
import Typeset.Proofs.Markdown.Prose
import Typeset.Proofs.Number.Reading

/-!
# Paragraphs of prose

A line whose text starts with a letter starts no block but a paragraph, and continues one.  Main
statement: lines of prose are rendered as one paragraph that holds the escaped lines with line
breaks between them.
-/

namespace Typeset

open Text Styled

namespace Markdown

/-! ## Lines that start with a letter -/

/-- The text of a line starts with a letter and has no vertical bar. -/
structure StartsPlain (line : Line) : Prop where
  exists_cons : ∃ first rest, line.text = first :: rest ∧ first.isAlpha = true
  noBar : '|' ∉ line.text

theorem beq_of_isAlpha {c : Char} (letter : c.isAlpha = true) (special : Char)
    (notLetter : special.isAlpha = false) : (c == special) = false := by
  apply beq_false_of_ne
  rintro rfl
  rw [letter] at notLetter
  contradiction

theorem isDigit_of_isAlpha {c : Char} (letter : c.isAlpha = true) : c.isDigit = false := by
  apply Bool.eq_false_iff.mpr
  intro digit
  have below : c.val ≤ '9'.val := of_decide_eq_true (Bool.and_eq_true_iff.mp digit).2
  have above : 'A'.val ≤ c.val := by
    rcases Bool.or_eq_true_iff.mp letter with upper | lower
    · exact (of_decide_eq_true upper).1
    · exact UInt32.le_trans (by decide) (of_decide_eq_true (Bool.and_eq_true_iff.mp lower).1)
  exact absurd (UInt32.le_trans above below) (by decide)

namespace StartsPlain

variable {frame : Frame} {line : Line} (plain : StartsPlain line)

include plain

theorem notBlank : line.isBlank = false := by
  obtain ⟨first, rest, text, -⟩ := plain.exists_cons
  rw [Line.isBlank, text]
  rfl

theorem fence?_eq_none : frame.fence? line = none := by
  obtain ⟨first, rest, text, letter⟩ := plain.exists_cons
  have noTick := beq_of_isAlpha letter backtick rfl
  simp only [Frame.fence?, text, beq_of_isAlpha letter '~' rfl, noTick, Bool.or_false,
    Bool.false_eq_true, if_false, ite_self]

theorem startsQuote_eq_false : frame.startsQuote line = false := by
  obtain ⟨first, rest, text, letter⟩ := plain.exists_cons
  have noMark : (first == '>') = false := beq_of_isAlpha letter '>' rfl
  simp [Frame.startsQuote, text, beq_eq_false_iff_ne.mp noMark]

theorem isRule_eq_false : frame.isRule line = false := by
  obtain ⟨first, rest, text, letter⟩ := plain.exists_cons
  simp only [Frame.isRule, text, beq_of_isAlpha letter '*' rfl, beq_of_isAlpha letter '-' rfl,
    beq_of_isAlpha letter '_' rfl, Bool.or_false, Bool.and_false, Bool.false_and]

theorem marker?_eq_none : frame.marker? line = none := by
  obtain ⟨first, rest, text, letter⟩ := plain.exists_cons
  have noDigits : ((first :: rest).takeWhile Char.isDigit).isEmpty = true := by
    rw [List.takeWhile_cons, isDigit_of_isAlpha letter]
    rfl
  have noNumber : Marker.numbered? (first :: rest) = none := if_pos noDigits
  have noBullet : Marker.bullet? (first :: rest) = none := by
    simp only [Marker.bullet?, beq_of_isAlpha letter '*' rfl, beq_of_isAlpha letter '-' rfl,
      beq_of_isAlpha letter '+' rfl, Bool.or_false, Bool.false_and, Bool.false_eq_true, if_false]
  simp only [Frame.marker?, text, Marker.ofText?, noNumber, noBullet, Option.or_none, ite_self]

theorem heading?_eq_none : frame.heading? line = none := by
  obtain ⟨first, rest, text, letter⟩ := plain.exists_cons
  have noSigns : (first :: rest).takeWhile (· == '#') = [] := by
    rw [List.takeWhile_cons, beq_of_isAlpha letter '#' rfl]
    rfl
  have noLevel : HeadingLevel.ofNat? 0 = none := rfl
  simp only [Frame.heading?, text, noSigns, List.length_nil, noLevel, Option.map_none, ite_self]

theorem underline?_eq_none : underline? line = none := by
  obtain ⟨first, rest, text, letter⟩ := plain.exists_cons
  simp only [underline?, text, beq_of_isAlpha letter '=' rfl, beq_of_isAlpha letter '-' rfl,
    Bool.or_false, Bool.false_and, Bool.false_eq_true, if_false]

theorem definition?_eq_none (rest : List Line) : frame.definition? line rest = none := by
  obtain ⟨first, others, text, letter⟩ := plain.exists_cons
  rw [Frame.definition?]
  dsimp only
  rw [List.flatMap_cons, text, Option.map_eq_none_iff]
  simp only [Definition.read?, List.cons_append]
  split
  · rename_i equal
    have bracket := beq_of_isAlpha letter '[' rfl
    rw [(List.cons.inj equal).1] at bracket
    contradiction
  · rfl

theorem startsBlock_eq_false (afterParagraph : Bool) (rest : List Line) :
    frame.startsBlock afterParagraph line rest = false := by
  simp only [Frame.startsBlock, Frame.interrupts, Frame.interruptsList, Frame.startsList,
    Frame.tableHeader?_eq_none plain.noBar, plain.fence?_eq_none, plain.startsQuote_eq_false,
    plain.isRule_eq_false, plain.marker?_eq_none, plain.heading?_eq_none, Option.isSome_none,
    Bool.or_false]

end StartsPlain

namespace Frame

variable {frame : Frame} {lines : List Line} (plain : ∀ line ∈ lines, StartsPlain line)

include plain

/-- Lines that start with a letter continue a paragraph. -/
theorem continuation_eq_self (afterParagraph : Bool) :
    frame.continuation afterParagraph lines = lines := by
  induction lines with
  | nil => rfl
  | cons line lines ih =>
      obtain ⟨startsPlain, others⟩ := List.forall_mem_cons.mp plain
      rw [continuation, startsPlain.notBlank, startsPlain.startsBlock_eq_false, Bool.not_false,
        Bool.or_true, Bool.and_true, if_pos rfl, ih others]

/-- They do not make it a heading. -/
theorem underlined?_eq_none : frame.underlined? lines = none := by
  induction lines with
  | nil => rfl
  | cons line lines ih =>
      obtain ⟨startsPlain, others⟩ := List.forall_mem_cons.mp plain
      simp only [underlined?, ih others, startsPlain.underline?_eq_none, Option.map_none, ite_self]

end Frame

/-- Lines that start with a letter are read as one paragraph. -/
theorem readBlock_of_startsPlain {frame : Frame} (quoted item : Reader) {first : Line}
    {rest : List Line} (plain : ∀ line ∈ first :: rest, StartsPlain line)
    (notCode : frame.isCode first = false) :
    frame.readBlock quoted item first rest =
      .ofBlock (.paragraph false (trim isEdge (linesText frame.indent (first :: rest))))
        (rest.length + 1) := by
  obtain ⟨startsPlain, others⟩ := List.forall_mem_cons.mp plain
  simp only [Frame.readBlock, Frame.tableHeader?_eq_none startsPlain.noBar, notCode,
    startsPlain.fence?_eq_none, startsPlain.startsQuote_eq_false, startsPlain.isRule_eq_false,
    startsPlain.marker?_eq_none, startsPlain.definition?_eq_none, startsPlain.heading?_eq_none,
    Frame.readParagraph, Frame.underlined?_eq_none others, Frame.continuation_eq_self others,
    List.length_cons, Bool.false_eq_true, if_false]

/-! ## Lines of prose -/

section Prose

variable {line : String} {lines : List String}

theorem IsProse.ofChars_eq (prose : IsProse line) (ended : Bool) :
    Line.ofChars line.toList ended =
      { margin := [], column := 0, indent := 0, text := line.toList, ended } := by
  obtain ⟨first, rest, chars, letter⟩ := prose.exists_cons
  rw [chars]
  exact Line.ofChars_cons (isBlank_of_isAlpha letter) rest ended

theorem IsProse.startsPlain (prose : IsProse line) (ended : Bool) :
    StartsPlain (Line.ofChars line.toList ended) := by
  rw [prose.ofChars_eq]
  exact ⟨prose.exists_cons, prose.not_mem rfl⟩

/-- The lines of joined texts: all but the last one are ended. -/
def joinedLines : List String → List Line
  | [] => []
  | [line] => [Line.ofChars line.toList false]
  | line :: next :: lines => Line.ofChars line.toList true :: joinedLines (next :: lines)

theorem exists_joinedLines_eq (line : String) (lines : List String) :
    ∃ ended rest, joinedLines (line :: lines) = Line.ofChars line.toList ended :: rest := by
  cases lines with
  | nil => exact ⟨false, [], rfl⟩
  | cons next lines => exact ⟨true, joinedLines (next :: lines), rfl⟩

theorem startsPlain_joinedLines (prose : ∀ line ∈ lines, IsProse line) :
    ∀ line ∈ joinedLines lines, StartsPlain line := by
  induction lines with
  | nil => exact List.forall_mem_nil _
  | cons line lines ih =>
      obtain ⟨isProse, others⟩ := List.forall_mem_cons.mp prose
      cases lines with
      | nil => exact List.forall_mem_singleton.mpr (isProse.startsPlain false)
      | cons next lines => exact List.forall_mem_cons.mpr ⟨isProse.startsPlain true, ih others⟩

theorem linesText_joinedLines (lines : List String) :
    linesText 0 (joinedLines lines) = ("\n".intercalate lines).toList := by
  induction lines with
  | nil => rfl
  | cons line lines ih =>
      cases lines with
      | nil =>
          have single : linesText 0 (joinedLines [line]) =
              (Line.ofChars line.toList false).dropColumns 0 := rfl
          rw [single, Line.dropColumns_ofChars]
          simp
      | cons next lines =>
          have cut : linesText 0 (joinedLines (line :: next :: lines)) =
              (Line.ofChars line.toList true).dropColumns 0 ++
                '\n' :: linesText 0 (joinedLines (next :: lines)) := by
            cases lines <;> rfl
          rw [cut, Line.dropColumns_ofChars, ih, toList_intercalate]

theorem splitLines_joinedLines (nonempty : lines ≠ []) (prose : ∀ line ∈ lines, IsProse line) :
    splitLines ("\n".intercalate lines).toList = joinedLines lines := by
  induction lines with
  | nil => contradiction
  | cons line lines ih =>
      obtain ⟨isProse, others⟩ := List.forall_mem_cons.mp prose
      have isLine : '\n' ∉ line.toList := isProse.not_mem rfl
      cases lines with
      | nil =>
          have notBlank : line.toList.all isBlank = false := by
            obtain ⟨first, rest, chars, letter⟩ := isProse.exists_cons
            rw [chars, List.all_cons, isBlank_of_isAlpha letter, Bool.false_and]
          have single : ("\n".intercalate [line]).toList = line.toList := by simp
          rw [single, splitLines_last isLine notBlank]
          rfl
      | cons next lines =>
          rw [toList_intercalate, splitLines_line isLine, ih (List.cons_ne_nil next lines) others]
          rfl

/-! ## Edges -/

theorem isEdge_of_isProseChar {c : Char} (prose : isProseChar c = true) (notSpace : c ≠ ' ') :
    isEdge c = false := by
  simp only [isProseChar, Bool.or_eq_true, beq_iff_eq] at prose
  rcases prose with ((((letter | rfl) | rfl) | rfl) | rfl) | rfl
  · have alphanum : c.isAlphanum = true := by rw [Char.isAlphanum, letter, Bool.true_or]
    have bounds := Number.toNat_bounds_of_isAlphanum alphanum
    simp [isEdge, isSpacing]
    omega
  · contradiction
  all_goals decide

theorem exists_getLast?_eq (nonempty : lines ≠ []) (prose : ∀ line ∈ lines, IsProse line) :
    ∃ c, ("\n".intercalate lines).toList.getLast? = some c ∧ isEdge c = false := by
  induction lines with
  | nil => contradiction
  | cons line lines ih =>
      obtain ⟨isProse, others⟩ := List.forall_mem_cons.mp prose
      cases lines with
      | nil =>
          obtain ⟨first, rest, chars, -⟩ := isProse.exists_cons
          have single : ("\n".intercalate [line]).toList = line.toList := by simp
          obtain ⟨c, last⟩ : ∃ c, line.toList.getLast? = some c := by
            rw [chars, List.getLast?_cons]
            exact ⟨_, rfl⟩
          have member := List.mem_of_getLast? last
          have notSpace : c ≠ ' ' := fun space => isProse.last (space ▸ last)
          exact ⟨c, by rw [single, last],
            isEdge_of_isProseChar (isProse.chars c member) notSpace⟩
      | cons next lines =>
          obtain ⟨c, last, notEdge⟩ := ih (List.cons_ne_nil next lines) others
          refine ⟨c, ?_, notEdge⟩
          rw [toList_intercalate, List.getLast?_append, List.getLast?_cons, last]
          rfl

/-- Prose is not trimmed. -/
theorem trim_prose (nonempty : lines ≠ []) (prose : ∀ line ∈ lines, IsProse line) :
    trim isEdge ("\n".intercalate lines).toList = ("\n".intercalate lines).toList := by
  obtain ⟨c, last, notEdge⟩ := exists_getLast?_eq nonempty prose
  apply Number.trim_eq_self_of_ends
  · cases lines with
    | nil => contradiction
    | cons line lines =>
        obtain ⟨first, rest, chars, letter⟩ := (prose line List.mem_cons_self).exists_cons
        obtain ⟨after, joined⟩ := exists_toList_intercalate line lines
        rw [joined, chars]
        apply isEdge_of_isProseChar (isProseChar_of_isAlpha letter)
        rintro rfl
        contradiction
  · rw [last]
    exact notEdge

/-! ## Reading -/

theorem isSource_prose (prose : ∀ line ∈ lines, IsProse line) :
    IsSource ("\n".intercalate lines) := by
  intro c member
  rcases (IsProseText.of_lines prose).mem member with isProse | rfl
  · exact ⟨ne_of_isProseChar isProse '\r' rfl, toNat_ne_zero_of_isProseChar isProse⟩
  · decide

/-- Lines of prose are read as one paragraph. -/
theorem read_prose (nonempty : lines ≠ []) (prose : ∀ line ∈ lines, IsProse line) :
    Document.read ("\n".intercalate lines) =
      [.paragraph false ⟨"\n".intercalate lines, proseInlines lines⟩] := by
  obtain ⟨line, others, rfl⟩ := List.exists_cons_of_ne_nil nonempty
  obtain ⟨ended, rest, cut⟩ := exists_joinedLines_eq line others
  have plain := startsPlain_joinedLines prose
  have joined := linesText_joinedLines (line :: others)
  have lined := splitLines_joinedLines nonempty prose
  rw [cut] at plain joined lined
  have first := plain _ List.mem_cons_self
  have notCode : Frame.outermost.isCode (Line.ofChars line.toList ended) = false := by
    rw [(prose line List.mem_cons_self).ofChars_eq]
    rfl
  have structured := blockStructure_of_readBlock lined first.notBlank
    (Line.isOutdented_ofChars _ _) (readBlock_of_startsPlain _ _ plain notCode) rfl
  have columns : Frame.outermost.indent = 0 := rfl
  rw [columns, joined, trim_prose nonempty prose] at structured
  rw [Document.read_of_blockStructure (isSource_prose prose) structured]
  simp only [Reading.ofBlock, Block.mapAll, Block.map, readText_prose _ nonempty prose,
    String.ofList_toList]

end Prose

end Markdown

/-! ## HTML -/

namespace Node

open Markdown

variable {table : RuleTable} {settings : Settings}

theorem render_text (content : String) :
    (ofInline (.text content)).render table settings = .ok (escape content) :=
  render_of_plain (by simp [ofInline]) rfl rfl

theorem render_softBreak : (ofInline .softBreak).render table settings = .ok "<br />\n" :=
  render_of_plain (by simp [ofInline]) rfl rfl

/-- Lines of running text are escaped and have line breaks between them. -/
theorem renderAll_proseInlines (lines : List String) :
    renderAll table settings (ofInlines (proseInlines lines)) =
      .ok ("<br />\n".intercalate (lines.map escape)) := by
  induction lines with
  | nil => rfl
  | cons line lines ih =>
      cases lines with
      | nil =>
          have rendered := renderAll_singleton (@render_text table settings line)
          simpa [proseInlines, ofInlines] using rendered
      | cons next lines =>
          have cut : ofInlines (proseInlines (line :: next :: lines)) =
              ofInline (.text line) :: ofInline .softBreak ::
                ofInlines (proseInlines (next :: lines)) := rfl
          rw [cut]
          apply renderAll_cons_eq_ok_iff.mpr
          refine ⟨_, render_text line, _,
            renderAll_cons_eq_ok_iff.mpr ⟨_, render_softBreak, _, ih, rfl⟩, ?_⟩
          have others : (next :: lines).map escape ≠ [] := List.cons_ne_nil (escape next) _
          have escaped : (line :: next :: lines).map escape =
              escape line :: (next :: lines).map escape := rfl
          rw [escaped, String.intercalate_cons_of_ne_nil others, String.append_assoc]

/-- The node of running text has the HTML of its parts. -/
theorem render_ofText {text : RunningText} {html : String}
    (rendered : renderAll table settings (ofInlines text.inlines) = .ok html) :
    (ofText text).render table settings = .ok html :=
  render_of_plain (by simp [ofText]) rendered rfl

end Node

namespace Article

open Markdown

/-- A paragraph with finished content. -/
def paragraphHtml (content : String) (settings : Settings) : String :=
  element "p" (styleAttribute (Style.paragraph settings)) content ++ "\n"

/-- The paragraph of running text. -/
theorem render_paragraph {settings : Settings} (checked : settings.Checked) {text : RunningText}
    {content : String}
    (rendered : Node.renderAll .builtin settings (Node.ofInlines text.inlines) = .ok content) :
    (Node.ofBlock (.paragraph false text)).render .builtin settings =
      .ok (paragraphHtml content settings) := by
  have styled : Styled.html (.paragraph content false) settings =
      .ok (paragraphHtml content settings) := by
    rw [Styled.html, if_neg Bool.false_ne_true, checked.renderable.writable_paragraphNumbers]
    rfl
  exact Node.render_of_styled? (Node.role_ofBlock_ne_image _)
    (Node.renderAll_singleton (Node.render_ofText rendered)) rfl styled

/-- Under checked settings lines of prose are one paragraph, which holds the escaped lines with
line breaks between them. -/
theorem fragment_prose {settings : Settings} (checked : settings.Checked) {lines : List String}
    (nonempty : lines ≠ []) (prose : ∀ line ∈ lines, IsProse line) :
    fragment .builtin (.text ("\n".intercalate lines)) settings =
      .ok (paragraphHtml ("<br />\n".intercalate (lines.map escape)) settings) :=
  fragment_of_document (read_prose nonempty prose)
    (Node.renderAll_singleton (render_paragraph checked (Node.renderAll_proseInlines lines)))

/-- Lines that look like an address and a reference are escaped. -/
theorem fragment_prose_lookalikes :
    let lines := ["a<b>\x22c\x22", "R&amp D"]
    ({} : Settings).Checked ∧ lines ≠ [] ∧ (∀ line ∈ lines, IsProse line) ∧
      fragment .builtin (.text "a<b>\x22c\x22\nR&amp D") {} =
        .ok (paragraphHtml "a&lt;b&gt;\x22c\x22<br />\nR&amp;amp D" {}) := by
  intro lines
  have checked : ({} : Settings).Checked := by decide +kernel
  have prose : ∀ line ∈ lines, IsProse line := by decide
  have joined : "\n".intercalate lines = "a<b>\x22c\x22\nR&amp D" := by decide +kernel
  have content : "<br />\n".intercalate (lines.map escape) =
      "a&lt;b&gt;\x22c\x22<br />\nR&amp;amp D" := by decide +kernel
  have rendered := fragment_prose checked (List.cons_ne_nil _ _) prose
  rw [joined, content] at rendered
  exact ⟨checked, List.cons_ne_nil _ _, prose, rendered⟩

end Article

end Typeset
