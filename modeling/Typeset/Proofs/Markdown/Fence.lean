import Typeset.Proofs.Markdown.Blocks

/-!
# Fenced code

The lines between two fences are code whatever they look like, unless one of them closes the
fence.  Main statement: they are rendered as one block of code that reads as these lines, whatever
the info text is and whether or not the fence is closed.
-/

namespace Typeset

open Text Styled

namespace Markdown

/-! ## Fences -/

/-- Three backticks. -/
def fence : String :=
  String.ofList (List.replicate 3 backtick)

/-- An info text after backticks: one line that has neither backticks nor vertical bars. -/
structure IsInfo (info : String) : Prop where
  isSource : IsSource info
  isLine : IsLine info
  noBacktick : backtick ∉ info.toList
  noBar : '|' ∉ info.toList

/-- A line that closes a fence of three backticks: fewer than four columns of spaces, as many
backticks or more, and nothing but blanks after them.  A tab reaches the fourth column. -/
def ClosesFence (line : String) : Prop :=
  ∃ indent signs blanks, indent < 4 ∧ 3 ≤ signs ∧ (∀ c ∈ blanks, isBlank c = true) ∧
    line.toList = List.replicate indent ' ' ++ (List.replicate signs backtick ++ blanks)

/-- A line inside a fence. -/
structure IsCodeLine (line : String) : Prop where
  isSource : IsSource line
  isLine : IsLine line
  staysOpen : ¬ClosesFence line

/-- Three backticks with an info text. -/
def FenceOpening.ofInfo (info : String) : FenceOpening :=
  ⟨backtick, 3, info.toList⟩

theorem takeWhile_backticks (signs : Nat) {rest : List Char}
    (ends : rest.head?.any (· == backtick) = false) :
    (List.replicate signs backtick ++ rest).takeWhile (· == backtick) =
      List.replicate signs backtick :=
  takeWhile_append_eq (fun _ member => beq_iff_eq.mpr (List.eq_of_mem_replicate member))
    ((Option.any_eq_false _ _).mp ends)

theorem isClosedBy_ofChars_iff {info line : String} {ended : Bool} :
    (FenceOpening.ofInfo info).isClosedBy .outermost (Line.ofChars line.toList ended) = true ↔
      ClosesFence line := by
  have notCode : ∀ line : Line, (!Frame.outermost.isCode line) = true ↔ line.indent < 4 := by
    intro line
    simp [Frame.isCode, Frame.excess, Frame.outermost]
  rw [FenceOpening.isClosedBy, Bool.and_eq_true, Bool.and_eq_true, notCode, decide_eq_true_iff,
    List.all_eq_true]
  constructor
  · rintro ⟨⟨few, enough⟩, blanks⟩
    let margin := line.toList.takeWhile isBlank
    let text := line.toList.drop margin.length
    let signs := text.takeWhile (· == backtick)
    have few : columnsAfter 0 0 margin < 4 := Int.ofNat_lt.mp few
    have spaces := eq_spaces_of_columnsAfter_lt
      (fun c member => (List.mem_takeWhile_imp member)) few
    have backticks : signs = List.replicate signs.length backtick :=
      List.eq_replicate_of_mem fun c member =>
        beq_iff_eq.mp (@List.mem_takeWhile_imp _ (· == backtick) _ _ member)
    have columns := le_columnsAfter 0 0 margin
    refine ⟨margin.length, signs.length, text.drop signs.length, by omega, enough, blanks, ?_⟩
    rw [← spaces, ← backticks,
      List.prefix_iff_eq_append.mp (List.takeWhile_prefix (· == backtick) : signs <+: text),
      List.prefix_iff_eq_append.mp (List.takeWhile_prefix isBlank : margin <+: line.toList)]
  · rintro ⟨indent, signs, blanks, few, enough, areBlank, chars⟩
    have spaces : ∀ c ∈ List.replicate indent ' ', isBlank c = true := fun c member => by
      rw [List.eq_of_mem_replicate member]
      rfl
    have head : (List.replicate signs backtick ++ blanks).head?.any isBlank = false := by
      obtain ⟨others, rfl⟩ := Nat.exists_eq_add_of_le' (Nat.one_le_of_lt enough)
      rfl
    have ends : blanks.head?.any (· == backtick) = false := by
      cases blanks with
      | nil => rfl
      | cons c rest =>
          have blank := areBlank c List.mem_cons_self
          apply beq_false_of_ne
          rintro rfl
          contradiction
    rw [chars, Line.ofChars_append spaces head]
    dsimp only [FenceOpening.ofInfo]
    rw [takeWhile_backticks signs ends, columnsAfter_spaces, List.length_replicate,
      List.drop_left' (List.length_replicate)]
    exact ⟨⟨by omega, enough⟩, areBlank⟩

instance (line : String) : Decidable (ClosesFence line) :=
  decidable_of_iff _ (@isClosedBy_ofChars_iff "" line true)

instance (line : String) : Decidable (IsCodeLine line) :=
  decidable_of_iff (IsSource line ∧ IsLine line ∧ ¬ClosesFence line)
    ⟨fun ⟨isSource, isLine, staysOpen⟩ => ⟨isSource, isLine, staysOpen⟩,
      fun code => ⟨code.isSource, code.isLine, code.staysOpen⟩⟩

/-! ## Reading -/

/-- The lines inside a fence are kept until a line closes it. -/
theorem content_codeLines {info : String} {lines : List String}
    (staysOpen : ∀ line ∈ lines, ¬ClosesFence line) (rest : List Line) :
    (FenceOpening.ofInfo info).content .outermost
        (lines.map (fun line => Line.ofChars line.toList true) ++ rest) =
      (lines.map (fun line => Line.ofChars line.toList true) ++
          ((FenceOpening.ofInfo info).content .outermost rest).1,
        ((FenceOpening.ofInfo info).content .outermost rest).2) := by
  induction lines with
  | nil => rfl
  | cons line lines ih =>
      obtain ⟨notClosing, others⟩ := List.forall_mem_cons.mp staysOpen
      have inside : Frame.outermost.isOutdented (Line.ofChars line.toList true) = false :=
        Line.isOutdented_ofChars _ _
      have ended : (Line.ofChars line.toList true).ended = true := rfl
      have notClosed : (FenceOpening.ofInfo info).isClosedBy .outermost
          (Line.ofChars line.toList true) = false :=
        Bool.eq_false_iff.mpr (isClosedBy_ofChars_iff.not.mpr notClosing)
      rw [List.map_cons, List.cons_append, FenceOpening.content]
      simp only [inside, ended, notClosed, ih others, Bool.and_false, Bool.not_true,
        Bool.false_eq_true, if_false, List.cons_append]

/-- The lines of code have their text back. -/
theorem flatMap_dropColumns (lines : List String) :
    (lines.map fun line => Line.ofChars line.toList true).flatMap
      (fun line => line.dropColumns 0 ++ line.ending) = (unlines lines).toList := by
  induction lines with
  | nil => rfl
  | cons line lines ih =>
      have ending : (Line.ofChars line.toList true).ending = ['\n'] := rfl
      rw [List.map_cons, List.flatMap_cons, ih, Line.dropColumns_ofChars, ending]
      simp [unlines]

/-- What may follow the lines inside a fence: nothing, or three backticks. -/
def closings : List String :=
  ["", fence, fence ++ "\n"]

theorem content_closing {info closing : String} (member : closing ∈ closings) :
    ∃ closed, (FenceOpening.ofInfo info).content .outermost (splitLines closing.toList) =
        ([], closed) ∧
      (splitLines closing.toList).length = if closed then 1 else 0 := by
  simp only [closings, List.mem_cons, List.not_mem_nil, or_false] at member
  rcases member with rfl | rfl | rfl
  · exact ⟨false, rfl, rfl⟩
  · exact ⟨true, rfl, rfl⟩
  · exact ⟨true, rfl, rfl⟩

variable {info : String} {lines : List String} {closing : String}

/-- The text of fenced code. -/
def fencedText (info : String) (lines : List String) (closing : String) : String :=
  fence ++ info ++ "\n" ++ unlines lines ++ closing

theorem isSource_fencedText (isInfo : IsInfo info) (code : ∀ line ∈ lines, IsCodeLine line)
    (member : closing ∈ closings) : IsSource (fencedText info lines closing) := by
  have isSourceFence : IsSource fence := by decide
  have isSourceFeed : IsSource "\n" := by decide
  have isSourceClosing : IsSource closing := by
    simp only [closings, List.mem_cons, List.not_mem_nil, or_false] at member
    rcases member with rfl | rfl | rfl <;> decide
  simp only [fencedText, isSource_append_iff]
  exact ⟨⟨⟨⟨isSourceFence, isInfo.isSource⟩, isSourceFeed⟩,
    isSource_unlines fun line member => (code line member).isSource⟩, isSourceClosing⟩

/-- The line that opens a fence. -/
def openingLine (info : String) : Line :=
  { margin := [], column := 0, indent := 0, text := (fence ++ info).toList, ended := true }

theorem splitLines_fencedText (isInfo : IsInfo info) (code : ∀ line ∈ lines, IsCodeLine line) :
    splitLines (fencedText info lines closing).toList =
      openingLine info :: (lines.map (fun line => Line.ofChars line.toList true) ++
        splitLines closing.toList) := by
  have isLine : '\n' ∉ (fence ++ info).toList :=
    isLine_append_iff.mpr ⟨by decide, isInfo.isLine⟩
  have chars : (fencedText info lines closing).toList =
      (fence ++ info).toList ++ '\n' :: ((unlines lines).toList ++ closing.toList) := by
    simp [fencedText]
  have opening : Line.ofChars (fence ++ info).toList true = openingLine info := by
    rw [openingLine, String.toList_append]
    exact Line.ofChars_cons rfl _ _
  rw [chars, splitLines_line isLine, opening,
    splitLines_unlines fun line member => (code line member).isLine]

theorem fence?_openingLine (isInfo : IsInfo info) :
    Frame.outermost.fence? (openingLine info) = some (.ofInfo info) := by
  have chars : (openingLine info).text = List.replicate 3 backtick ++ info.toList := by
    simp [openingLine, fence]
  have ends : info.toList.head?.any (· == backtick) = false := by
    rw [Option.any_eq_false]
    intro c head
    exact beq_false_of_ne (ne_of_mem_of_not_mem (List.mem_of_mem_head? head) isInfo.noBacktick)
  have noCode : Frame.outermost.isCode (openingLine info) = false := rfl
  have noBacktick : info.toList.contains backtick = false := by
    simpa using isInfo.noBacktick
  have after : (List.replicate 3 backtick ++ info.toList).drop 3 = info.toList := rfl
  have sign : (List.replicate 3 backtick ++ info.toList) =
      backtick :: (List.replicate 2 backtick ++ info.toList) := rfl
  rw [Frame.fence?, noCode, if_neg Bool.false_ne_true, chars]
  split
  · contradiction
  · rename_i first rest equal
    obtain ⟨rfl, -⟩ := List.cons.inj (sign.symm.trans equal)
    rw [takeWhile_backticks 3 ends, List.length_replicate]
    dsimp only
    rw [after, noBacktick]
    rfl

/-- The lines after the opening of a fence are its code, up to a line that closes it. -/
theorem readFence_openingLine {rest : List Line} {closed : Bool}
    (code : ∀ line ∈ lines, IsCodeLine line)
    (content : (FenceOpening.ofInfo info).content .outermost rest = ([], closed)) :
    Frame.outermost.readFence (.ofInfo info) (openingLine info)
        (lines.map (fun line => Line.ofChars line.toList true) ++ rest) =
      .ofBlock (.fence info (unlines lines)) (lines.length + if closed then 2 else 1) := by
  have columns : (openingLine info).indent.toNat = 0 := rfl
  rw [Frame.readFence, content_codeLines (fun line member => (code line member).staysOpen), content]
  dsimp only
  rw [List.append_nil, columns, flatMap_dropColumns, List.length_map, String.ofList_toList]
  simp [FenceOpening.ofInfo]

/-- Fenced code is read as one block. -/
theorem read_fencedText (isInfo : IsInfo info) (code : ∀ line ∈ lines, IsCodeLine line)
    (member : closing ∈ closings) :
    Document.read (fencedText info lines closing) = [.fence info (unlines lines)] := by
  obtain ⟨closed, content, count⟩ := @content_closing info closing member
  have noBar : '|' ∉ (openingLine info).text := by
    have notInFence : '|' ∉ fence.toList := by decide
    rw [openingLine, String.toList_append, List.mem_append]
    exact not_or.mpr ⟨notInFence, isInfo.noBar⟩
  have notBlank : (openingLine info).isBlank = false := by
    simp [openingLine, Line.isBlank, fence]
  have structured := blockStructure_of_readBlock (splitLines_fencedText isInfo code) notBlank rfl
    ((Frame.readBlock_of_fence? _ _ noBar rfl (fence?_openingLine isInfo)).trans
      (readFence_openingLine code content)) (by
      rw [List.length_append, List.length_map, count]
      cases closed <;> rfl)
  rw [Document.read_of_blockStructure (isSource_fencedText isInfo code member) structured]
  rfl

end Markdown

/-! ## HTML -/

namespace Article

open Markdown

/-- A block of code, whose rule escapes it. -/
def codeHtml (code : String) (settings : Settings) : String :=
  element "pre" (styleAttribute (Style.codeBlock settings)) (element "code" "" (escape code)) ++
    "\n"

/-- Under checked settings fenced code is one block of code.  What it holds reads as the lines
between the fences, each with its end; the info text and the closing fence do not change it. -/
theorem fragment_fencedText {settings : Settings} (checked : settings.Checked)
    {lines : List String} (code : ∀ line ∈ lines, IsCodeLine line) :
    Html.read (escape (unlines lines)) = some (Html.join [.text (unlines lines)]) ∧
      ∀ info, IsInfo info → ∀ closing ∈ closings,
        fragment .builtin (.text (fencedText info lines closing)) settings =
          .ok (codeHtml (unlines lines) settings) := by
  refine ⟨(Html.Reads.escaped _).read_eq, fun info isInfo closing member => ?_⟩
  have rendered : Styled.html (.codeBlock (unlines lines) (language? info)) settings =
      .ok (codeHtml (unlines lines) settings) := by
    rw [Styled.html, checked.renderable.writable_codeBlockNumbers]
    rfl
  apply fragment_of_document (read_fencedText isInfo code member)
  exact Node.renderAll_singleton
    (Node.render_of_styled? (Node.role_ofBlock_ne_image _) rfl rfl rendered)

/-- Lines that look like a fence, a heading and HTML are kept, also when no fence closes them. -/
theorem fragment_fencedText_lookalikes :
    let lines := ["", " \t", fence ++ "x", "# <b>&amp;"]
    ({} : Settings).Checked ∧ (∀ line ∈ lines, IsCodeLine line) ∧
      fragment .builtin (.text (fencedText "python" lines "")) {} =
        .ok (codeHtml ("\n \t\n" ++ fence ++ "x\n# <b>&amp;\n") {}) ∧
      fragment .builtin (.text (fencedText "" lines fence)) {} =
        .ok (codeHtml ("\n \t\n" ++ fence ++ "x\n# <b>&amp;\n") {}) := by
  intro lines
  have checked : ({} : Settings).Checked := by decide +kernel
  have code : ∀ line ∈ lines, IsCodeLine line := by decide
  have same := (fragment_fencedText checked code).2
  exact ⟨checked, code,
    same "python" ⟨by decide, by decide, by decide, by decide⟩ "" (by decide),
    same "" ⟨by decide, by decide, by decide, by decide⟩ fence (by decide)⟩

end Article

end Typeset
