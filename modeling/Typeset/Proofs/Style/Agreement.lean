import Typeset.Proofs.Style.Renderable

/-!
# Both outputs show the same

The style sheet and the rules for HTML list their declarations apart, in an order
and under names of their own.  Main statement: for the same settings every block of
the style sheet repeats the style of the element that it selects.
-/

namespace Typeset

open Typeset.Style Typeset.Styled

/-! ## Rules with their styles -/

section Rules

variable {settings : Settings} {size : String}

theorem Styled.html_paragraph (renderable : settings.Renderable) (content : String) :
    Styled.html (.paragraph content false) settings =
      .ok (element "p" (styleAttribute (Style.paragraph settings)) content ++ "\n") :=
  bind_eq_ok_iff.mpr ⟨(), renderable.writable_paragraphNumbers, rfl⟩

theorem Styled.html_codeBlock (renderable : settings.Renderable) (code : String)
    (language : Option String) :
    Styled.html (.codeBlock code language) settings =
      .ok (element "pre" (styleAttribute (Style.codeBlock settings))
        (element "code" "" (Text.escape code)) ++ "\n") :=
  bind_eq_ok_iff.mpr ⟨(), renderable.writable_codeBlockNumbers, rfl⟩

theorem Styled.html_blockquote (sized : quoteSize settings = .ok size) (content : String) :
    Styled.html (.blockquote content) settings =
      .ok (element "blockquote" (styleAttribute (quoteStyle size settings)) content ++ "\n") :=
  bind_eq_ok_iff.mpr ⟨size, sized, rfl⟩

/-- The rule of a heading with a small level. -/
theorem Styled.html_heading {level : Int} (writable : (Number.int level).isWritable = true)
    (sized : headingSize level settings = .ok size) (content : String) :
    Styled.html (.heading level content) settings =
      .ok (headingHtml level content size settings) := by
  have written : requireWritable [.int level] = .ok () := by
    apply requireWritable_eq_ok_iff.mpr
    simpa using writable
  exact bind_eq_ok_iff.mpr ⟨size, sized, bind_eq_ok_iff.mpr ⟨(), written, rfl⟩⟩

end Rules

namespace Stylesheet

/-- A declaration under the name that it has in HTML, where the background colour of
a box is set by the short form of the property. -/
def inlineName (declaration : Declaration) : Declaration :=
  if declaration.1 = "background-color" then ("background", declaration.2) else declaration

/-- Bold text has the same declarations in the HTML and in the style sheet. -/
theorem strongStyle_eq_strong (settings : Settings) :
    Styled.strongStyle settings = strong settings :=
  rfl

/-- Every block of a style sheet repeats the style of the element that it selects, with
the same values.  For body text, bold text and code the declarations are the same in
the same order; for headings the HTML has more of them, and those of the second level
are spread over two elements; a quotation has the same eight in another order. -/
theorem agrees_of_ofSettings {settings : Settings} {css : String}
    (styled : ofSettings settings = .ok css) :
    ∃ view heading subheading minorHeading body bold quote code : Declarations,
      css = leadIn ++ "\n\n" ++ "\n\n".intercalate
          ([(viewSelector, view), (inView "h1", heading), (inView "h2", subheading),
            (inView "h3", minorHeading), (inView "p", body), (inView "strong", bold),
            (inView "blockquote", quote), (inView "pre", code)].map
            fun (selector, declarations) =>
              selector ++ " \x7b\n" ++ "\n".intercalate (declarations.map fun (name, value) =>
                "  " ++ name ++ ": " ++ value ++ " !important;") ++ "\n\x7d") ++ "\n" ∧
      (∀ content, Styled.html (.paragraph content false) settings =
        .ok (element "p" (styleAttribute body) content ++ "\n")) ∧
      (∀ content, Styled.html (.strong content) settings =
        .ok (element "strong" (styleAttribute bold) content)) ∧
      (∀ content language, Styled.html (.codeBlock content language) settings =
        .ok (element "pre" (styleAttribute code) (element "code" "" (Text.escape content)) ++
          "\n")) ∧
      (∃ style, heading ⊆ style ∧ ∀ content, Styled.html (.heading 1 content) settings =
        .ok (element "h1" (styleAttribute style) content ++ "\n")) ∧
      (∃ outer inner, subheading ⊆ outer ++ inner ∧
        ∀ content, Styled.html (.heading 2 content) settings =
          .ok (element "section" (styleAttribute outer)
            (element "span" (styleAttribute inner) content) ++ "\n")) ∧
      (∃ style, minorHeading ⊆ style ∧ ∀ content, Styled.html (.heading 3 content) settings =
        .ok (element "h3" (styleAttribute style) content ++ "\n")) ∧
      ∃ style, (quote.map inlineName).Perm style ∧ quote.length = 8 ∧
        ∀ content, Styled.html (.blockquote content) settings =
          .ok (element "blockquote" (styleAttribute style) content ++ "\n") := by
  have renderable := exists_ofSettings_eq_ok_iff.mp ⟨css, styled⟩
  obtain ⟨size1, size2, size3, quoteSize, sized1, sized2, sized3, quoteSized, rfl⟩ :=
    exists_sizes_of_ofSettings styled
  refine ⟨_, _, _, _, _, _, _, _, rfl, Styled.html_paragraph renderable, ?_,
    Styled.html_codeBlock renderable, ?_, ?_, ?_, ?_⟩
  · intro content
    rw [← strongStyle_eq_strong]
    rfl
  · refine ⟨headingStyle size1 settings, ?_, Styled.html_heading (by decide) sized1⟩
    simp [headingStyle, headingCommon]
  · refine ⟨subheadingOuterStyle, subheadingInnerStyle size2 settings, ?_,
      Styled.html_heading (by decide) sized2⟩
    simp [subheadingOuterStyle, subheadingInnerStyle]
  · refine ⟨minorHeadingStyle size3 settings, ?_, Styled.html_heading (by decide) sized3⟩
    simp [minorHeadingStyle, headingCommon]
  · refine ⟨quoteStyle quoteSize settings, ?_, rfl, Styled.html_blockquote quoteSized⟩
    simp [quoteStyle, inlineName, List.cons_perm_iff_perm_erase]

theorem agrees_of_ofSettings_enlarged :
    ∃ css, ofSettings { fontSize := .int 40, headingColor := "a;b" } = .ok css ∧
      ∃ quote style : Declarations, (quote.map inlineName).Perm style ∧ quote.length = 8 ∧
        ∀ content,
          Styled.html (.blockquote content) { fontSize := .int 40, headingColor := "a;b" } =
            .ok (element "blockquote" (styleAttribute style) content ++ "\n") := by
  have exists_css : (ofSettings { fontSize := .int 40, headingColor := "a;b" }).isOk = true := by
    decide +kernel
  obtain ⟨css, styled⟩ := isOk_iff.mp exists_css
  obtain ⟨-, -, -, -, -, -, quote, -, -, -, -, -, -, -, -, agrees⟩ := agrees_of_ofSettings styled
  exact ⟨css, styled, quote, agrees⟩

end Stylesheet

end Typeset
