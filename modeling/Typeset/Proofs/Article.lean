import Typeset.Article
import Typeset.Proofs.Tree.Renders

/-!
# The HTML of articles

An article reads as the tokens of its tree inside one section.  All its markup
comes from the nodes of the tree, which have a fixed vocabulary and hold no raw
HTML.
-/

namespace Typeset.Article

open Typeset.Html Typeset.Node

/-- The fonts of an article. -/
def wrapperStyle : String :=
  "font-family:-apple-system,BlinkMacSystemFont,'Helvetica Neue',Arial,sans-serif; " ++
    "font-size:16px;"

/-- The attributes of the section around an article. -/
def wrapperAttributes : List Attribute :=
  [("id", "wechat-typeset"), ("style", wrapperStyle)]

/-- The tokens inside the section. -/
def innerTokens (markdown : String) (settings : Settings) : List Token :=
  lineEnd ++ (tree markdown).tokens settings ++ lineEnd

/-- The tokens of an article. -/
def tokens (markdown : String) (settings : Settings) : List Token :=
  enclose "section" wrapperAttributes (innerTokens markdown settings)

theorem fragment_text_eq_ok_iff {table : RuleTable} {markdown : String} {settings : Settings}
    {content : String} :
    fragment table (.text markdown) settings = .ok content ↔
      body table markdown settings = .ok content :=
  mapError_eq_ok_iff

/-- A text is rendered to its body inside the section. -/
theorem html_text_eq_ok_iff {table : RuleTable} {markdown : String} {settings : Settings}
    {html : String} :
    Article.html table (.text markdown) settings = .ok html ↔
      ∃ content, body table markdown settings = .ok content ∧ wrap content = html := by
  simp only [Article.html, map_eq_ok_iff, fragment_text_eq_ok_iff]

/-- The section around a body reads as an element. -/
theorem reads_wrap {content : String} {inner : List Token} (reads : Reads content inner) :
    Reads (wrap content) (enclose "section" wrapperAttributes (lineEnd ++ inner ++ lineEnd)) := by
  have readsId : ReadsAttributes (" " ++ "id" ++ "=\"" ++ "wechat-typeset" ++ "\"")
      [("id", "wechat-typeset")] :=
    .plain (by decide) (by decide)
  have readsStyle : ReadsAttributes (" " ++ "style" ++ "=\"" ++ wrapperStyle ++ "\"")
      [("style", wrapperStyle)] :=
    .plain (by decide) (by decide)
  have opened : opening = "<" ++ "section" ++ ((" " ++ "id" ++ "=\"" ++ "wechat-typeset" ++ "\"") ++
      (" " ++ "style" ++ "=\"" ++ wrapperStyle ++ "\"")) ++ ">" := by decide
  have spelled : ∀ attributesHtml, "<" ++ "section" ++ attributesHtml ++ ">" ++ "\n" ++ content ++
      "\n</section>" = Styled.element "section" attributesHtml ("\n" ++ content ++ "\n") := by
    intro attributesHtml
    apply String.toList_inj.mp
    simp [Styled.element]
  rw [wrap, opened, spelled]
  exact .element (by decide) (readsId.append readsStyle)
    ((Reads.lineFeed.append reads).append .lineFeed)

/-- All nodes of an article's tree come from its document. -/
theorem fromDocument_tree (markdown : String) :
    ∀ node ∈ (tree markdown).nodes, node.FromDocument :=
  fromDocument_ofDocument _

/-- An article reads as its tokens. -/
theorem reads_html {markdown : String} {settings : Settings} (plainColors : settings.PlainColors)
    {html : String} (rendered : Article.html .builtin (.text markdown) settings = .ok html) :
    Reads html (tokens markdown settings) := by
  obtain ⟨content, renderedBody, rfl⟩ := html_text_eq_ok_iff.mp rendered
  apply reads_wrap
  apply reads_render plainColors _ renderedBody
  intro node member
  exact (fromDocument_tree markdown node member).wellFormed

/-- After the opening tag of the section all names are known. -/
theorem isKnown_innerTokens (markdown : String) (settings : Settings) :
    (innerTokens markdown settings ++ [Token.closing "section"]).all isKnown = true := by
  have inner : (innerTokens markdown settings).all isKnown = true :=
    isKnown_line (isKnown_ownLines (isKnown_tokens (fromDocument_tree markdown)))
  rw [List.all_append, inner]
  rfl

theorem balanced_tokens (markdown : String) (settings : Settings) :
    Balanced (tokens markdown settings) :=
  balanced_enclose _ _
    (balanced_line ((Balanced.text "\n").append (Node.balanced_tokens (tree markdown))))

/-- The tags of an article's HTML are those of its tree inside one section: they
have known names, they are closed in the reverse order of opening, and every `<`
starts one of them.  Only the section has an attribute outside the vocabulary, and
no node of the tree is raw HTML. -/
theorem read_html {markdown : String} {settings : Settings} (plainColors : settings.PlainColors)
    {html : String} (rendered : Article.html .builtin (.text markdown) settings = .ok html) :
    ∃ inner, read html = some (.opening "section" wrapperAttributes :: inner) ∧
      .opening "section" wrapperAttributes :: inner = join (tokens markdown settings) ∧
      (∀ node ∈ (tree markdown).nodes,
        node.role.name ≠ "html_block" ∧ node.role.name ≠ "html_inline") ∧
      wrapperAttributes.map Prod.fst = ["id", "style"] ∧
      (∀ token ∈ inner, (∀ name, token.name? = some name → name ∈ tagNames) ∧
        ∀ entry ∈ token.attributes, entry.1 ∈ attributeNames) ∧
      Balanced (.opening "section" wrapperAttributes :: inner) ∧
      ∀ before after, html.toList = before ++ '<' :: after →
        ∃ word rest tag name, after = word ++ rest ∧
          read (String.ofList ('<' :: word)) = some [tag] ∧
          tag ∈ .opening "section" wrapperAttributes :: inner ∧
          tag.name? = some name ∧ name ∈ tagNames := by
  have readsAll := (reads_html plainColors rendered).read_eq
  have joined : join (tokens markdown settings) = .opening "section" wrapperAttributes ::
      join (innerTokens markdown settings ++ [.closing "section"]) :=
    join_cons_of_isTag rfl _
  have known : ∀ token ∈ join (innerTokens markdown settings ++ [.closing "section"]),
      isKnown token = true :=
    fun _ member => isKnown_of_mem_join (isKnown_innerTokens markdown settings) member
  rw [joined] at readsAll
  refine ⟨_, readsAll, joined.symm, ?_, rfl, ?_, ?_, ?_⟩
  · intro node member
    exact (fromDocument_tree markdown node member).role_ne_html
  · intro token member
    exact isKnown_iff.mp (known token member)
  · rw [← joined]
    exact (balanced_tokens markdown settings).join
  · intro before after split
    obtain ⟨word, rest, tag, spelled, member, isTag, readsTag⟩ := read_lt readsAll split
    obtain ⟨name, named⟩ := Token.exists_name?_of_isTag isTag
    refine ⟨word, rest, tag, name, spelled, readsTag, member, named, ?_⟩
    rcases List.mem_cons.mp member with rfl | inside
    · cases named
      decide
    · exact (isKnown_iff.mp (known tag inside)).1 name named

theorem read_html_link :
    ∃ html, Article.html .builtin (.text "a <b>c</b> [d](<e> \"<i>\")\n") {} = .ok html ∧
      ∃ tokens, read html = some tokens ∧ Balanced tokens := by
  have plainColors : Settings.PlainColors {} := ⟨rfl, rfl, rfl, rfl⟩
  have renders :
      (Article.html .builtin (.text "a <b>c</b> [d](<e> \"<i>\")\n") {}).isOk = true := by
    decide +kernel
  obtain ⟨html, rendered⟩ := isOk_iff.mp renders
  obtain ⟨inner, readable, -, -, -, -, balanced, -⟩ := read_html plainColors rendered
  exact ⟨html, rendered, _, readable, balanced⟩

/-! ## Rendering succeeds -/

/-- Every text is rendered when the settings can be. -/
theorem exists_body_eq_ok {settings : Settings} (renderable : settings.Renderable)
    (markdown : String) : ∃ content, body .builtin markdown settings = .ok content :=
  exists_render_eq_ok renderable (fromDocument_tree markdown)

/-- Of a value that is no text, only that is reported. -/
theorem html_of_not_text {value : Value} (notText : ∀ text, value ≠ .text text)
    (table : RuleTable) (settings : Settings) :
    Article.html table value settings = .error (.notText value) := by
  cases value with
  | text text => exact absurd rfl (notText text)
  | _ => rfl

/-- Both outputs exist for every text and all checked settings: nothing that the
reader of Markdown produces makes a rule fail.  Of other values, being no text is
all that is reported. -/
theorem renders_of_checked (markdown : String) {settings : Settings} (checked : settings.Checked) :
    (∀ node ∈ (tree markdown).nodes,
      (node.role = .heading → node.tag ∈ headingTags) ∧
      (∀ value, ("start", value) ∈ node.attributes →
        ∃ n, value.integer = .ok n ∧ 0 ≤ n ∧ n ≤ 999999999) ∧
      node.role.name ≠ "html_block" ∧ node.role.name ≠ "html_inline") ∧
    (∃ html, Article.html .builtin (.text markdown) settings = .ok html) ∧
    (∃ html, fragment .builtin (.text markdown) settings = .ok html) ∧
    (∃ css, Stylesheet.ofSettings settings = .ok css) ∧
    ∀ value : Value, (∀ text, value ≠ .text text) → ∀ table otherSettings,
      Article.html table value otherSettings = .error (.notText value) := by
  have fromDocument := fromDocument_tree markdown
  obtain ⟨content, rendered⟩ := exists_body_eq_ok checked.renderable markdown
  refine ⟨?_, ⟨wrap content, ?_⟩, ⟨content, ?_⟩, ?_, fun _ => html_of_not_text⟩
  · intro node member
    have known := fromDocument node member
    exact ⟨known.tag_mem_headingTags, fun _ => known.exists_integer_start, known.role_ne_html⟩
  · exact html_text_eq_ok_iff.mpr ⟨content, rendered, rfl⟩
  · exact fragment_text_eq_ok_iff.mpr rendered
  · exact Stylesheet.exists_ofSettings_eq_ok_iff.mpr checked.renderable

theorem renders_of_checked_large :
    ∃ settings : Settings, settings.fontSize = .int (Number.wholePower 10 308) ∧
      settings.Checked ∧
      ∃ html, Article.html .builtin (.text "7. # <b>a</b>\n") settings = .ok html := by
  have checked : Settings.Checked { fontSize := .int (Number.wholePower 10 308) } := by
    decide +kernel
  exact ⟨_, rfl, checked, (renders_of_checked "7. # <b>a</b>\n" checked).2.1⟩

end Typeset.Article
