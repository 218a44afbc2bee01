import Typeset.Proofs.Number.CssText
import Typeset.Proofs.Style.Values
import Typeset.Proofs.Text.Lines

/-!
# The style sheet determines the settings

A colour without a line feed stays on its line, so a style sheet comes apart into its
lines, and every setting is the value on one of them.  Main statement: two snapshots
have the same style sheet when their colours are the same and their lengths have the
same values, and only then.
-/

namespace Typeset

theorem isLine_of_isNumeral {text : String} (numeral : Number.isNumeral text = true) :
    IsLine text := by
  intro member
  have lineFeed := List.all_eq_true.mp numeral _ member
  contradiction

/-! ## The lines of a style sheet -/

/-- All four colours stay on their lines. -/
structure Settings.LineColors (settings : Settings) : Prop where
  heading : IsLine settings.headingColor
  bold : IsLine settings.boldColor
  text : IsLine settings.textColor
  code : IsLine settings.codeBackground

namespace Stylesheet

/-- The lines of a block, with the empty line in front of it. -/
def blockLines (block : String × Declarations) : List String :=
  "" :: (block.1 ++ " \x7b") :: (block.2.map Declarations.line ++ ["\x7d"])

theorem unlines_blockLines {block : String × Declarations} (nonempty : block.2 ≠ []) :
    unlines (blockLines block) = "\n" ++ block.2.block block.1 ++ "\n" := by
  have body : block.2.body ++ "\n" = unlines (block.2.map Declarations.line) :=
    intercalate_lineFeed (List.map_eq_nil_iff.not.mpr nonempty)
  simp only [blockLines, unlines, unlines_append, ← body, Declarations.block]
  simp [← String.toList_inj]

/-- The lines of a style sheet. -/
def lines (blocks : List (String × Declarations)) : List String :=
  leadIn :: blocks.flatMap blockLines

theorem text_eq_unlines {blocks : List (String × Declarations)} (nonempty : blocks ≠ [])
    (declared : ∀ block ∈ blocks, block.2 ≠ []) : text blocks = unlines (lines blocks) := by
  have joined : "\n" ++ "\n\n".intercalate
      (blocks.map fun block => block.2.block block.1) ++ "\n" =
        unlines (blocks.flatMap blockLines) := by
    induction blocks with
    | nil => contradiction
    | cons block blocks ih =>
        obtain ⟨blockDeclared, declared⟩ := List.forall_mem_cons.mp declared
        rw [List.flatMap_cons, unlines_append, unlines_blockLines blockDeclared]
        cases blocks with
        | nil => simp [unlines]
        | cons next blocks =>
            rw [← ih (List.cons_ne_nil next blocks) declared, List.map_cons,
              String.intercalate_cons_of_ne_nil (by simp)]
            simp [← String.toList_inj]
  rw [lines, unlines, ← joined, text]
  simp [← String.toList_inj]

/-! ## Reading settings off the lines -/

section Lines

variable {settings other : Settings} {size1 size2 size3 quoteSize : String}
  {otherSize1 otherSize2 otherSize3 otherQuoteSize : String}

/-- No value leaves its line. -/
theorem isLine_blocks (lineColors : settings.LineColors) (line1 : IsLine size1)
    (line2 : IsLine size2) (line3 : IsLine size3) (quoteLine : IsLine quoteSize) :
    ∀ block ∈ blocks settings size1 size2 size3 quoteSize, ∀ declaration ∈ block.2,
      IsLine declaration.2 := by
  have pixels : ∀ number : Number, IsLine number.pixels := fun number =>
    isLine_of_isNumeral number.isNumeral_pixels
  have number : ∀ number : Number, IsLine number.cssText := fun number =>
    isLine_of_isNumeral number.isNumeral_cssText
  have border : ∀ width line : String, IsLine width → IsLine line →
      IsLine (Style.accentBorder width line settings) := by
    intro width line widthLine lineLine
    have space : IsLine " " := by decide
    simp only [Style.accentBorder, isLine_append_iff, widthLine, lineLine, space,
      lineColors.heading, and_self]
  have border2 := border "2px" "solid" (by decide) (by decide)
  have border4 := border "4px" "solid" (by decide) (by decide)
  simp only [blocks, Style.paragraph, strong, Style.codeBlock, List.forall_mem_cons,
    List.not_mem_nil, false_implies, implies_true, and_true, pixels, number, border2, border4,
    line1, line2, line3, quoteLine, lineColors.heading, lineColors.bold, lineColors.text,
    lineColors.code]
  decide +kernel

/-- A style sheet is made of its lines. -/
theorem isLine_lines (lineColors : settings.LineColors) (line1 : IsLine size1)
    (line2 : IsLine size2) (line3 : IsLine size3) (quoteLine : IsLine quoteSize) :
    ∀ line ∈ lines (blocks settings size1 size2 size3 quoteSize), IsLine line := by
  have fixed : ∀ entry ∈ outline, IsLine (entry.1 ++ " \x7b") ∧ ∀ name ∈ entry.2, IsLine name := by
    decide +kernel
  have values := isLine_blocks lineColors line1 line2 line3 quoteLine
  rw [← map_blocks settings size1 size2 size3 quoteSize] at fixed
  refine List.forall_mem_cons.mpr ⟨by decide +kernel, ?_⟩
  intro line member
  obtain ⟨block, listed, member⟩ := List.mem_flatMap.mp member
  obtain ⟨selector, names⟩ := fixed _ (List.mem_map.mpr ⟨block, listed, rfl⟩)
  simp only [blockLines, List.mem_cons, List.mem_append, List.mem_map, List.not_mem_nil,
    or_false] at member
  rcases member with rfl | rfl | ⟨declaration, declared, rfl⟩ | rfl
  · decide
  · exact selector
  · have name := names _ (List.mem_map.mpr ⟨declaration, declared, rfl⟩)
    have value := values block listed declaration declared
    have indent : IsLine "  " := by decide
    have colon : IsLine ": " := by decide
    have flag : IsLine " !important;" := by decide
    simp only [Declarations.line, isLine_append_iff, name, value, indent, colon, flag, and_self]
  · decide

theorem line_inj {name value otherValue : String} :
    Declarations.line (name, value) = Declarations.line (name, otherValue) ↔
      value = otherValue := by
  simp [Declarations.line]

theorem accentBorder_inj {width line : String} :
    Style.accentBorder width line settings = Style.accentBorder width line other ↔
      settings.headingColor = other.headingColor := by
  simp [Style.accentBorder]

/-- Blocks of the same lines have the same values. -/
theorem eq_of_lines_blocks_eq
    (equal : lines (blocks settings size1 size2 size3 quoteSize) =
      lines (blocks other otherSize1 otherSize2 otherSize3 otherQuoteSize)) :
    settings.headingColor = other.headingColor ∧ settings.boldColor = other.boldColor ∧
      settings.textColor = other.textColor ∧ settings.codeBackground = other.codeBackground ∧
      settings.codeMarginTop.pixels = other.codeMarginTop.pixels ∧
      settings.codeMarginBottom.pixels = other.codeMarginBottom.pixels ∧
      settings.fontSize.pixels = other.fontSize.pixels ∧
      settings.lineHeight.cssText = other.lineHeight.cssText := by
  simp only [lines, blocks, blockLines, Style.paragraph, strong, Style.codeBlock,
    List.flatMap_cons, List.flatMap_nil, List.map_cons, List.map_nil, List.cons_append,
    List.nil_append, List.append_nil, List.cons.injEq, true_and, and_true, line_inj,
    accentBorder_inj] at equal
  obtain ⟨fontSize, lineHeight, textColor, -, headingColor, -, -, -, -, -, -, -, -, -, boldColor,
    -, -, marginTop, marginBottom, codeBackground⟩ := equal
  exact ⟨headingColor, boldColor, textColor, codeBackground, marginTop, marginBottom, fontSize,
    lineHeight⟩

/-- The text of a style sheet is that of its lines. -/
theorem text_blocks :
    text (blocks settings size1 size2 size3 quoteSize) =
      unlines (lines (blocks settings size1 size2 size3 quoteSize)) := by
  have declared : ∀ entry ∈ outline, entry.2 ≠ [] := by decide
  apply text_eq_unlines (List.cons_ne_nil _ _)
  intro block listed empty
  apply declared (block.1, block.2.map Prod.fst)
  · rw [← map_blocks settings size1 size2 size3 quoteSize]
    exact List.mem_map.mpr ⟨block, listed, rfl⟩
  · rw [empty, List.map_nil]

end Lines

end Stylesheet

theorem Style.isLine_scaledSize {settings : Settings} {scale : Binary64} {size : String}
    (scaled : scaledSize settings scale = .ok size) : IsLine size := by
  unfold scaledSize at scaled
  split at scaled
  · cases scaled
    exact isLine_of_isNumeral (Number.isNumeral_pixels _)
  · contradiction

/-! ## Settings of the same values -/

/-- The same colours, and lengths of the same values. -/
structure Settings.SameValues (settings other : Settings) : Prop where
  headingColor : settings.headingColor = other.headingColor
  boldColor : settings.boldColor = other.boldColor
  textColor : settings.textColor = other.textColor
  codeBackground : settings.codeBackground = other.codeBackground
  codeMarginTop : settings.codeMarginTop.value? = other.codeMarginTop.value?
  codeMarginBottom : settings.codeMarginBottom.value? = other.codeMarginBottom.value?
  fontSize : settings.fontSize.value? = other.fontSize.value?
  lineHeight : settings.lineHeight.value? = other.lineHeight.value?

/-- Checked lengths are written alike when they have the same value, and only then. -/
theorem Field.cssText_eq_iff_of_check {field : Field} (isLength : field.isLength = true)
    {a b : Number} (checked : field.check (.number a) = .ok ())
    (otherChecked : field.check (.number b) = .ok ()) :
    a.cssText = b.cssText ↔ a.value? = b.value? := by
  obtain ⟨u, hasValue⟩ := exists_value?_of_check isLength checked
  obtain ⟨v, otherHasValue⟩ := exists_value?_of_check isLength otherChecked
  rw [Number.cssText_eq_iff hasValue otherHasValue, hasValue, otherHasValue, Option.some.injEq]

/-- A size scales alike when it has the same value. -/
theorem Style.scaledSize_eq {settings other : Settings} {v : ℚ}
    (hasValue : settings.fontSize.value? = some v) (otherHasValue : other.fontSize.value? = some v)
    (scale : Binary64) : scaledSize settings scale = scaledSize other scale := by
  rcases Number.eq_or_exists_alike hasValue otherHasValue with
    same | ⟨x, y, found, otherFound, alike⟩
  · simp only [scaledSize, same]
  · simp only [scaledSize, found, otherFound, Except.ok.injEq]
    exact Number.pixels_eq_iff.mpr (Number.cssText_mul_of_alike alike scale)

namespace Stylesheet

variable {settings other : Settings}

/-- Settings of the same values are written alike. -/
theorem blocks_eq_of_sameValues (checked : settings.Checked) (otherChecked : other.Checked)
    (same : settings.SameValues other) (size1 size2 size3 quoteSize : String) :
    blocks settings size1 size2 size3 quoteSize = blocks other size1 size2 size3 quoteSize := by
  have marginTop := (Field.cssText_eq_iff_of_check rfl (checked .codeMarginTop)
    (otherChecked .codeMarginTop)).mpr same.codeMarginTop
  have marginBottom := (Field.cssText_eq_iff_of_check rfl (checked .codeMarginBottom)
    (otherChecked .codeMarginBottom)).mpr same.codeMarginBottom
  have fontSize := (Field.cssText_eq_iff_of_check rfl (checked .fontSize)
    (otherChecked .fontSize)).mpr same.fontSize
  have lineHeight := (Field.cssText_eq_iff_of_check rfl (checked .lineHeight)
    (otherChecked .lineHeight)).mpr same.lineHeight
  simp only [blocks, Style.paragraph, strong, Style.codeBlock, Style.accentBorder,
    Number.pixels, marginTop, marginBottom, fontSize, lineHeight, same.headingColor,
    same.boldColor, same.textColor, same.codeBackground]

/-- Settings of the same style sheet have the same values. -/
theorem sameValues_of_lines_eq (checked : settings.Checked) (otherChecked : other.Checked)
    {size1 size2 size3 quoteSize otherSize1 otherSize2 otherSize3 otherQuoteSize : String}
    (equal : lines (blocks settings size1 size2 size3 quoteSize) =
      lines (blocks other otherSize1 otherSize2 otherSize3 otherQuoteSize)) :
    settings.SameValues other := by
  obtain ⟨headingColor, boldColor, textColor, codeBackground, marginTop, marginBottom, fontSize,
    lineHeight⟩ := eq_of_lines_blocks_eq equal
  exact
    { headingColor := headingColor
      boldColor := boldColor
      textColor := textColor
      codeBackground := codeBackground
      codeMarginTop := (Field.cssText_eq_iff_of_check rfl (checked .codeMarginTop)
        (otherChecked .codeMarginTop)).mp (Number.pixels_eq_iff.mp marginTop)
      codeMarginBottom := (Field.cssText_eq_iff_of_check rfl (checked .codeMarginBottom)
        (otherChecked .codeMarginBottom)).mp (Number.pixels_eq_iff.mp marginBottom)
      fontSize := (Field.cssText_eq_iff_of_check rfl (checked .fontSize)
        (otherChecked .fontSize)).mp (Number.pixels_eq_iff.mp fontSize)
      lineHeight := (Field.cssText_eq_iff_of_check rfl (checked .lineHeight)
        (otherChecked .lineHeight)).mp lineHeight }

/-- Checked settings have a style sheet each.  As long as their colours stay on their lines, the
two are the same when the settings have the same colours, and lengths of the same values, and
only then. -/
theorem exists_ofSettings_eq_iff (checked : settings.Checked) (otherChecked : other.Checked)
    (lineColors : settings.LineColors) (otherLineColors : other.LineColors) :
    ∃ css otherCss, ofSettings settings = .ok css ∧ ofSettings other = .ok otherCss ∧
      (css = otherCss ↔ settings.SameValues other) := by
  obtain ⟨css, styled⟩ := exists_ofSettings_eq_ok_iff.mpr checked.renderable
  obtain ⟨otherCss, otherStyled⟩ := exists_ofSettings_eq_ok_iff.mpr otherChecked.renderable
  refine ⟨css, otherCss, styled, otherStyled, ?_⟩
  obtain ⟨size1, size2, size3, quoteSize, sized1, sized2, sized3, quoteSized, rfl⟩ :=
    exists_sizes_of_ofSettings styled
  obtain ⟨otherSize1, otherSize2, otherSize3, otherQuoteSize, otherSized1, otherSized2,
    otherSized3, otherQuoteSized, rfl⟩ := exists_sizes_of_ofSettings otherStyled
  constructor
  · intro equal
    rw [text_blocks, text_blocks] at equal
    apply sameValues_of_lines_eq checked otherChecked
    apply unlines_inj _ _ equal
    · exact isLine_lines lineColors (Style.isLine_scaledSize sized1)
        (Style.isLine_scaledSize sized2) (Style.isLine_scaledSize sized3)
        (Style.isLine_scaledSize quoteSized)
    · exact isLine_lines otherLineColors (Style.isLine_scaledSize otherSized1)
        (Style.isLine_scaledSize otherSized2) (Style.isLine_scaledSize otherSized3)
        (Style.isLine_scaledSize otherQuoteSized)
  · intro same
    obtain ⟨v, hasValue⟩ := Field.exists_value?_of_check rfl (checked .fontSize)
    have scaled := Style.scaledSize_eq hasValue (same.fontSize ▸ hasValue)
    have equal1 := Except.ok.inj (sized1.symm.trans ((scaled _).trans otherSized1))
    have equal2 := Except.ok.inj (sized2.symm.trans ((scaled _).trans otherSized2))
    have equal3 := Except.ok.inj (sized3.symm.trans ((scaled _).trans otherSized3))
    have quoteEqual := Except.ok.inj (quoteSized.symm.trans ((scaled _).trans otherQuoteSized))
    rw [equal1, equal2, equal3, quoteEqual, blocks_eq_of_sameValues checked otherChecked same]

theorem exists_ofSettings_eq_iff_sixteen :
    ∃ css, ofSettings { headingColor := "a;b \x7d", fontSize := .int 16 } = .ok css ∧
      ofSettings { headingColor := "a;b \x7d", fontSize := .double (.ofDecimal false 16 0) } =
        .ok css := by
  obtain ⟨css, otherCss, styled, otherStyled, same⟩ :=
    exists_ofSettings_eq_iff
      (show { headingColor := "a;b \x7d", fontSize := .int 16 : Settings }.Checked by
        decide +kernel)
      (show { headingColor := "a;b \x7d",
              fontSize := .double (.ofDecimal false 16 0) : Settings }.Checked by decide +kernel)
      ⟨by decide, by decide, by decide, by decide⟩ ⟨by decide, by decide, by decide, by decide⟩
  have sixteen : (Number.int 16).value? = (Number.double (.ofDecimal false 16 0)).value? := by
    decide +kernel
  cases same.mpr ⟨rfl, rfl, rfl, rfl, rfl, rfl, sixteen, rfl⟩
  exact ⟨css, styled, otherStyled⟩

end Stylesheet

end Typeset
