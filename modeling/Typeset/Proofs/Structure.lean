import Typeset.Proofs.Article
import Typeset.Proofs.Style.Values
import Typeset.Proofs.Tree.Unstyled

/-!
# Settings are data

Two snapshots give HTML with the same tags and style sheets with the same blocks,
provided that their colours are plain and do not end a declaration.  The colours are
written as they are, and any text is accepted as a colour, so that without the proviso
a colour may add an attribute to a tag and a declaration to a block.
-/

namespace Typeset.Article

open Typeset.Html Typeset.Node

/-- The tokens of an article are the same for all settings but for styles. -/
theorem sameUnstyled_tokens (markdown : String) (settings other : Settings) :
    SameUnstyled (tokens markdown settings) (tokens markdown other) := by
  have line : SameUnstyled lineEnd lineEnd := rfl
  have inner := Node.sameUnstyled_tokens settings other (tree markdown)
  exact ((line.append inner).append line).enclose _ rfl

/-! ## Colours that are no values -/

/-- A horizontal rule is all that is rendered of a line of hyphens. -/
theorem body_rule (settings : Settings) :
    body .builtin "---\n" settings =
      .ok ("<hr" ++ Styled.styleAttribute (Styled.horizontalRuleStyle settings) ++ " />\n") := by
  have document : tree "---\n" =
      { role := .root, children := [{ role := .horizontalRule, tag := "hr", block := true }] } :=
    rfl
  rw [body, document]
  have rule : render .builtin settings { role := .horizontalRule, tag := "hr", block := true } =
      .ok ("<hr" ++ Styled.styleAttribute (Styled.horizontalRuleStyle settings) ++ " />\n") :=
    render_eq_ok_iff.mpr ⟨"", rfl, rfl⟩
  exact render_eq_ok_iff.mpr
    ⟨_, renderAll_cons_eq_ok_iff.mpr ⟨_, rule, "", rfl, String.append_empty⟩, rfl⟩

/-- A quote in the heading colour ends the style of a horizontal rule, and what follows
it is an attribute of its own. -/
theorem reads_rule_of_headingColor {first name rest : String} {settings : Settings}
    (colour : settings.headingColor = first ++ "\" " ++ name ++ "=\"" ++ rest)
    (plainFirst : Text.isPlain first = true) (isName : isAttributeName name = true)
    (plainRest : Text.isPlain rest = true) :
    Reads ("<hr" ++ Styled.styleAttribute (Styled.horizontalRuleStyle settings) ++ " />\n")
      (.single "hr" [("style", "border:0; border-top:1px dashed " ++ first),
        (name, rest ++ "; margin:30px 0; opacity:0.6;")] :: lineEnd) := by
  have spelled : "<hr" ++ Styled.styleAttribute (Styled.horizontalRuleStyle settings) ++ " />\n" =
      ("<" ++ "hr" ++
        ((" " ++ "style" ++ "=\"" ++ ("border:0; border-top:1px dashed " ++ first) ++ "\"") ++
          (" " ++ name ++ "=\"" ++ (rest ++ "; margin:30px 0; opacity:0.6;") ++ "\"")) ++ " />") ++
        "\n" := by
    apply String.toList_inj.mp
    simp [Styled.styleAttribute, Styled.horizontalRuleStyle, Declarations.inline,
      Style.accentBorder, colour]
  have plainStyle : Text.isPlain ("border:0; border-top:1px dashed " ++ first) = true := by
    simp only [Text.isPlain_append, plainFirst]
    decide
  have plainOthers : Text.isPlain (rest ++ "; margin:30px 0; opacity:0.6;") = true := by
    simp only [Text.isPlain_append, plainRest]
    decide
  rw [spelled]
  exact (Reads.single (by decide)
    (ReadsAttributes.append (.plain (by decide) plainStyle) (.plain isName plainOthers))).append
      .lineFeed

/-- A semicolon in the bold colour ends its declaration, and what follows it is a
declaration of its own; only that one has the flag. -/
theorem readsDeclarations_strong_of_boldColor {value name rest : String} {settings : Settings}
    (colour : settings.boldColor = value ++ ";" ++ name ++ ":" ++ rest)
    (isValue : Css.IsValue value) (validName : Css.isName name = true)
    (isRest : Css.IsValue rest) :
    Css.ReadsDeclarations (Stylesheet.strong settings).body
      [("color", " " ++ value), (name, rest ++ " !important"),
        ("font-weight", " bold !important")] := by
  have spelled : (Stylesheet.strong settings).body =
      Declarations.line ("color", value ++ ";" ++ name ++ ":" ++ rest) ++ "\n" ++
        Declarations.line ("font-weight", "bold") := by
    simp [Stylesheet.strong, Declarations.body, colour, String.append_assoc]
  have validColor : Css.isName "color" = true := by decide
  rw [spelled]
  exact ((Css.ReadsDeclarations.line_of_two validColor isValue validName isRest).append
    .lineFeed).append (.line (by decide) (by decide))

/-- The block of bold text has the additional declaration. -/
theorem read_ofSettings_of_boldColor {value name rest : String} {settings : Settings}
    (colour : settings.boldColor = value ++ ";" ++ name ++ ":" ++ rest)
    (valueColors : Settings.ValueColors { settings with boldColor := value })
    (validName : Css.isName name = true) (isRest : Css.IsValue rest) {css : String}
    (styled : Stylesheet.ofSettings settings = .ok css) :
    ∃ blocks, Css.read css = some blocks ∧
      ⟨Stylesheet.inView "strong" ++ " ",
        [("color", " " ++ value), (name, rest ++ " !important"),
          ("font-weight", " bold !important")]⟩ ∈ blocks := by
  obtain ⟨size1, size2, size3, quoteSize, sized1, sized2, sized3, quoteSized, rfl⟩ :=
    Stylesheet.exists_sizes_of_ofSettings styled
  have readable := Stylesheet.readable_blocks valueColors (Style.isValue_scaledSize sized1)
    (Style.isValue_scaledSize sized2) (Style.isValue_scaledSize sized3)
    (Style.isValue_scaledSize quoteSized)
  -- The bold colour occurs in the sixth block only, so all others are read as usual.
  let usual := Stylesheet.blocks { settings with boldColor := value } size1 size2 size3 quoteSize
  let asUsual := fun block : String × Declarations => (block, Css.asRead block)
  let bold : (String × Declarations) × Css.Block :=
    ((Stylesheet.inView "strong", Stylesheet.strong settings),
      ⟨Stylesheet.inView "strong" ++ " ",
        [("color", " " ++ value), (name, rest ++ " !important"),
          ("font-weight", " bold !important")]⟩)
  have reads : Css.Reads
      (Stylesheet.text (((usual.take 5).map asUsual ++ bold :: (usual.drop 6).map asUsual).map
        Prod.fst))
      (((usual.take 5).map asUsual ++ bold :: (usual.drop 6).map asUsual).map Prod.snd) := by
    apply Css.Reads.text
    intro pair member
    rcases List.mem_append.mp member with front | onward
    · obtain ⟨block, listed, rfl⟩ := List.mem_map.mp front
      exact .readable (readable block (List.mem_of_mem_take listed))
    · rcases List.mem_cons.mp onward with rfl | back
      · have valid : Css.isSelector (Stylesheet.inView "strong" ++ " ") = true := by decide
        exact .block valid
          (readsDeclarations_strong_of_boldColor colour valueColors.bold validName isRest)
      · obtain ⟨block, listed, rfl⟩ := List.mem_map.mp back
        exact .readable (readable block (List.mem_of_mem_drop listed))
  refine ⟨_, reads.read_eq, ?_⟩
  simp [bold]

/-! ## Both outputs -/

/-- Two merges into the defaults give outputs of the same structure.  With plain
colours, the tokens of the HTML differ in nothing but the values of styles; with
colours that do not end a declaration, the style sheets have the same selectors and
properties, and every declaration ends with the flag that gives it precedence. -/
theorem same_structure_of_merge {entries otherEntries : Entries} {settings other : Settings}
    (merged : Settings.merge {} entries = .ok settings)
    (otherMerged : Settings.merge {} otherEntries = .ok other) (markdown : String) :
    (settings.PlainColors → other.PlainColors →
      ∃ html otherHtml tokens otherTokens,
        Article.html .builtin (.text markdown) settings = .ok html ∧
        Article.html .builtin (.text markdown) other = .ok otherHtml ∧
        Html.read html = some tokens ∧ Html.read otherHtml = some otherTokens ∧
        tokens.map Token.unstyled = otherTokens.map Token.unstyled ∧
        tokens.map Token.names = otherTokens.map Token.names) ∧
    (settings.ValueColors → other.ValueColors →
      ∃ css otherCss blocks otherBlocks,
        Stylesheet.ofSettings settings = .ok css ∧ Stylesheet.ofSettings other = .ok otherCss ∧
        Css.read css = some blocks ∧ Css.read otherCss = some otherBlocks ∧
        blocks.map Css.Block.outline = otherBlocks.map Css.Block.outline ∧
        blocks.map Css.Block.selector = Stylesheet.outline.map (fun entry => entry.1 ++ " ") ∧
        ∀ block ∈ blocks ++ otherBlocks, ∀ declaration ∈ block.declarations,
          ∃ value, declaration.2 = value ++ " !important") := by
  have defaults : Settings.Checked {} := by decide +kernel
  have renderable := defaults.renderable.of_merge merged
  have otherRenderable := defaults.renderable.of_merge otherMerged
  constructor
  · intro plainColors otherPlainColors
    obtain ⟨content, renderedBody⟩ := exists_body_eq_ok renderable markdown
    obtain ⟨otherContent, otherRenderedBody⟩ := exists_body_eq_ok otherRenderable markdown
    have rendered := html_text_eq_ok_iff.mpr ⟨content, renderedBody, rfl⟩
    have otherRendered := html_text_eq_ok_iff.mpr ⟨otherContent, otherRenderedBody, rfl⟩
    have same := (sameUnstyled_tokens markdown settings other).join
    exact ⟨_, _, _, _, rendered, otherRendered, (reads_html plainColors rendered).read_eq,
      (reads_html otherPlainColors otherRendered).read_eq, same, same.map_names⟩
  · intro valueColors otherValueColors
    obtain ⟨css, styled⟩ := Stylesheet.exists_ofSettings_eq_ok_iff.mpr renderable
    obtain ⟨otherCss, otherStyled⟩ := Stylesheet.exists_ofSettings_eq_ok_iff.mpr otherRenderable
    obtain ⟨blocks, readable, outline, flagged⟩ := Stylesheet.read_ofSettings valueColors styled
    obtain ⟨otherBlocks, otherReadable, otherOutline, otherFlagged⟩ :=
      Stylesheet.read_ofSettings otherValueColors otherStyled
    have selectors := congrArg (List.map Prod.fst) outline
    refine ⟨css, otherCss, blocks, otherBlocks, styled, otherStyled, readable, otherReadable,
      outline.trans otherOutline.symm, ?_, ?_⟩
    · simpa [Function.comp_def, Css.Block.outline] using selectors
    · intro block member
      rcases List.mem_append.mp member with first | second
      · exact flagged block first
      · exact otherFlagged block second

theorem same_structure_of_merge_function :
    ∃ settings, Settings.merge {} [("headingColor", .text "rgb(30, 136, 229)")] = .ok settings ∧
      (∃ html otherHtml tokens otherTokens,
        Article.html .builtin (.text "# a [b](c)\n") settings = .ok html ∧
        Article.html .builtin (.text "# a [b](c)\n") {} = .ok otherHtml ∧
        Html.read html = some tokens ∧ Html.read otherHtml = some otherTokens ∧
        tokens.map Token.names = otherTokens.map Token.names) ∧
      ∃ css otherCss blocks otherBlocks,
        Stylesheet.ofSettings settings = .ok css ∧ Stylesheet.ofSettings {} = .ok otherCss ∧
        Css.read css = some blocks ∧ Css.read otherCss = some otherBlocks ∧
        blocks.map Css.Block.outline = otherBlocks.map Css.Block.outline := by
  have merged : Settings.merge {} [("headingColor", .text "rgb(30, 136, 229)")] =
      .ok { headingColor := "rgb(30, 136, 229)" } := rfl
  have defaultsMerged : Settings.merge {} [] = .ok {} := rfl
  have plainColors : Settings.PlainColors { headingColor := "rgb(30, 136, 229)" } :=
    ⟨by decide, rfl, rfl, rfl⟩
  have defaultsPlain : Settings.PlainColors {} := ⟨rfl, rfl, rfl, rfl⟩
  have valueColors : Settings.ValueColors { headingColor := "rgb(30, 136, 229)" } :=
    ⟨by decide, by decide, by decide, by decide⟩
  have defaultValues : Settings.ValueColors {} :=
    ⟨by decide, by decide, by decide, by decide⟩
  obtain ⟨sameTokens, sameBlocks⟩ := same_structure_of_merge merged defaultsMerged "# a [b](c)\n"
  obtain ⟨html, otherHtml, tokens, otherTokens, rendered, otherRendered, readable, otherReadable,
    -, sameNames⟩ := sameTokens plainColors defaultsPlain
  obtain ⟨css, otherCss, blocks, otherBlocks, styled, otherStyled, cssReadable, otherCssReadable,
    sameOutline, -⟩ := sameBlocks valueColors defaultValues
  exact ⟨_, merged,
    ⟨html, otherHtml, tokens, otherTokens, rendered, otherRendered, readable, otherReadable,
      sameNames⟩,
    css, otherCss, blocks, otherBlocks, styled, otherStyled, cssReadable, otherCssReadable,
    sameOutline⟩

/-- Colours that are accepted may give a tag an attribute of its own, and a block of the
style sheet a declaration of its own and one without the flag. -/
theorem structure_of_merge_injected :
    ∃ settings, Settings.merge {}
        [("headingColor", .text "red\" class=\"x"), ("boldColor", .text "red;top:0")] =
          .ok settings ∧
      (∃ html otherHtml tokens otherTokens,
        Article.html .builtin (.text "---\n") settings = .ok html ∧
        Article.html .builtin (.text "---\n") {} = .ok otherHtml ∧
        Html.read html = some tokens ∧ Html.read otherHtml = some otherTokens ∧
        tokens.map Token.names ≠ otherTokens.map Token.names) ∧
      ∃ css blocks, Stylesheet.ofSettings settings = .ok css ∧ Css.read css = some blocks ∧
        ⟨".markdown-preview-view strong ",
          [("color", " red"), ("top", "0 !important"), ("font-weight", " bold !important")]⟩ ∈
            blocks := by
  have merged : Settings.merge {}
      [("headingColor", .text "red\" class=\"x"), ("boldColor", .text "red;top:0")] =
        .ok { headingColor := "red\" class=\"x", boldColor := "red;top:0" } := rfl
  refine ⟨_, merged, ?_, ?_⟩
  · have colour :
        Settings.headingColor { headingColor := "red\" class=\"x", boldColor := "red;top:0" } =
          "red" ++ "\" " ++ "class" ++ "=\"" ++ "x" := by
      decide
    have plainColors : Settings.PlainColors {} := ⟨rfl, rfl, rfl, rfl⟩
    have rendered := fun settings => html_text_eq_ok_iff.mpr ⟨_, body_rule settings, rfl⟩
    have isAttribute : isAttributeName "class" = true := by decide
    have reads := reads_wrap (reads_rule_of_headingColor colour (by decide) isAttribute (by decide))
    exact ⟨_, _, _, _, rendered _, rendered {}, reads.read_eq,
      (reads_html plainColors (rendered {})).read_eq, by decide +kernel⟩
  · have colour :
        Settings.boldColor { headingColor := "red\" class=\"x", boldColor := "red;top:0" } =
          "red" ++ ";" ++ "top" ++ ":" ++ "0" := by
      decide
    have valueColors :
        Settings.ValueColors { headingColor := "red\" class=\"x", boldColor := "red" } :=
      ⟨by decide, by decide, by decide, by decide⟩
    have exists_css : (Stylesheet.ofSettings
        { headingColor := "red\" class=\"x", boldColor := "red;top:0" }).isOk = true := by
      decide +kernel
    obtain ⟨css, styled⟩ := isOk_iff.mp exists_css
    obtain ⟨blocks, readable, member⟩ :=
      read_ofSettings_of_boldColor colour valueColors (by decide) (by decide) styled
    exact ⟨css, blocks, styled, readable, member⟩

end Typeset.Article
