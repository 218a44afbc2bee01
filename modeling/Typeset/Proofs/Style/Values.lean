import Typeset.Proofs.Css.Written
import Typeset.Proofs.Number.Numeral
import Typeset.Proofs.Style.Renderable

/-!
# Colours inside their declarations

The values of a style sheet are written as they are.  None of them ends its
declaration as long as no colour does, and then the style sheet reads as its eight
blocks, whose selectors and properties do not depend on the settings.
-/

namespace Typeset

open Typeset.Css

/-- All four colours may stand in a declaration. -/
structure Settings.ValueColors (settings : Settings) : Prop where
  heading : IsValue settings.headingColor
  bold : IsValue settings.boldColor
  text : IsValue settings.textColor
  code : IsValue settings.codeBackground

/-- A text of characters of numbers may stand in a declaration. -/
theorem Css.IsValue.of_isNumeral {text : String} (numeral : Number.isNumeral text = true) :
    IsValue text := by
  apply IsValue.of_forall_mem
  intro c member
  have notSpecial := Number.beq_eq_false_of_isNumeralChar (List.all_eq_true.mp numeral c member)
  simp [Nesting.step, Nesting.outside, notSpecial '\x22' (by decide), notSpecial '\x27' (by decide),
    notSpecial '(' (by decide), notSpecial '[' (by decide), notSpecial ')' (by decide),
    notSpecial ']' (by decide), notSpecial ';' (by decide), notSpecial '\x7b' (by decide),
    notSpecial '\x7d' (by decide), notSpecial '\\' (by decide), notSpecial '*' (by decide)]

theorem Style.isValue_scaledSize {settings : Settings} {scale : Binary64} {size : String}
    (scaled : scaledSize settings scale = .ok size) : IsValue size := by
  unfold scaledSize at scaled
  split at scaled
  · cases scaled
    exact .of_isNumeral (Number.isNumeral_pixels _)
  · contradiction

theorem Style.isValue_accentBorder {settings : Settings} (valueColors : settings.ValueColors)
    {width line : String} (widthValue : IsValue width) (lineValue : IsValue line) :
    IsValue (accentBorder width line settings) := by
  have space : IsValue " " := by decide
  exact (((widthValue.append space).append lineValue).append space).append valueColors.heading

namespace Stylesheet

/-- The selectors of the style sheet, each with the properties that its block sets. -/
def outline : List (String × List String) :=
  [(viewSelector, ["font-family", "font-size", "line-height", "color"]),
    (inView "h1", ["text-align", "font-size", "color", "margin"]),
    (inView "h2", ["text-align", "border-bottom", "color", "font-size", "margin-top",
      "margin-bottom", "padding-bottom", "display"]),
    (inView "h3", ["border-left", "padding-left", "color", "font-size", "margin"]),
    (inView "p", ["margin", "font-size", "line-height", "text-align", "color",
      "letter-spacing"]),
    (inView "strong", ["color", "font-weight"]),
    (inView "blockquote", ["margin", "border-left", "border-radius", "background-color",
      "color", "padding", "font-size", "line-height"]),
    (inView "pre", ["margin-top", "margin-bottom", "padding", "background", "border-radius",
      "font-size", "line-height", "color", "overflow-x", "font-family", "border"])]

/-- The settings determine values, but no selector and no property. -/
theorem map_blocks (settings : Settings) (size1 size2 size3 quoteSize : String) :
    (blocks settings size1 size2 size3 quoteSize).map
      (fun (selector, declarations) => (selector, declarations.map Prod.fst)) = outline :=
  rfl

variable {settings : Settings} {size1 size2 size3 quoteSize : String}

/-- No value ends its declaration. -/
theorem isValue_blocks (valueColors : settings.ValueColors) (value1 : IsValue size1)
    (value2 : IsValue size2) (value3 : IsValue size3) (quoteValue : IsValue quoteSize) :
    ∀ block ∈ blocks settings size1 size2 size3 quoteSize, ∀ declaration ∈ block.2,
      IsValue declaration.2 := by
  have pixels : ∀ number : Number, IsValue number.pixels := fun number =>
    .of_isNumeral number.isNumeral_pixels
  have number : ∀ number : Number, IsValue number.cssText := fun number =>
    .of_isNumeral number.isNumeral_cssText
  have border2 : IsValue (Style.accentBorder "2px" "solid" settings) :=
    Style.isValue_accentBorder valueColors (by decide) (by decide)
  have border4 : IsValue (Style.accentBorder "4px" "solid" settings) :=
    Style.isValue_accentBorder valueColors (by decide) (by decide)
  simp only [blocks, Style.paragraph, strong, Style.codeBlock, List.forall_mem_cons,
    List.not_mem_nil, false_implies, implies_true, and_true, pixels, number, border2, border4,
    value1, value2, value3, quoteValue, valueColors.heading, valueColors.bold, valueColors.text,
    valueColors.code]
  decide +kernel

theorem readable_blocks (valueColors : settings.ValueColors) (value1 : IsValue size1)
    (value2 : IsValue size2) (value3 : IsValue size3) (quoteValue : IsValue quoteSize) :
    ∀ block ∈ blocks settings size1 size2 size3 quoteSize, Readable block := by
  have valid : ∀ entry ∈ outline, isSelector (entry.1 ++ " ") = true ∧
      ∀ name ∈ entry.2, isName name = true := by
    decide +kernel
  intro block member
  have listed : (block.1, block.2.map Prod.fst) ∈ outline := by
    rw [← map_blocks settings size1 size2 size3 quoteSize]
    exact List.mem_map.mpr ⟨block, member, rfl⟩
  obtain ⟨selector, names⟩ := valid _ listed
  refine ⟨selector, ?_, isValue_blocks valueColors value1 value2 value3 quoteValue block member⟩
  intro declaration declared
  exact names _ (List.mem_map.mpr ⟨declaration, declared, rfl⟩)

/-- The style sheet reads as its eight blocks, and the flag that gives a declaration
precedence ends every value. -/
theorem read_ofSettings (valueColors : settings.ValueColors) {css : String}
    (styled : ofSettings settings = .ok css) :
    ∃ blocks, read css = some blocks ∧
      blocks.map Block.outline = outline.map (fun (selector, names) => (selector ++ " ", names)) ∧
      ∀ block ∈ blocks, ∀ declaration ∈ block.declarations,
        ∃ value, declaration.2 = value ++ " !important" := by
  obtain ⟨size1, size2, size3, quoteSize, sized1, sized2, sized3, quoteSized, rfl⟩ :=
    exists_sizes_of_ofSettings styled
  have readable := readable_blocks valueColors (Style.isValue_scaledSize sized1)
    (Style.isValue_scaledSize sized2) (Style.isValue_scaledSize sized3)
    (Style.isValue_scaledSize quoteSized)
  refine ⟨_, (Reads.text_readable readable).read_eq, ?_, ?_⟩
  · rw [← map_blocks settings size1 size2 size3 quoteSize, List.map_map, List.map_map]
    apply List.map_congr_left
    intro block _
    simp [asRead, Block.outline, important, Function.comp_def]
  · intro block member declaration declared
    obtain ⟨origin, -, rfl⟩ := List.mem_map.mp member
    obtain ⟨before, -, rfl⟩ := List.mem_map.mp declared
    exact ⟨" " ++ before.2, rfl⟩

end Stylesheet

end Typeset
