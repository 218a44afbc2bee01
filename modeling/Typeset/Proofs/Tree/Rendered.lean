import Typeset.Proofs.Html.Written
import Typeset.Proofs.Style.Plain
import Typeset.Proofs.Tree.Tokens

/-!
# Rendered HTML is the tree

Reading the HTML of a tree gives back exactly its tokens, so no content is ever
taken for markup and no markup is lost.  Every node is read back from what is
read of its children, each with the element that its role asks for.
-/

namespace Typeset.Node

open Typeset.Html

/-! ## Reading attributes back -/

theorem readsAttributes_styleOf {declarations : Declarations}
    (plain : declarations.isPlain = true) :
    ReadsAttributes (Styled.styleAttribute declarations) [styleOf declarations] := by
  have spelled : Styled.styleAttribute declarations =
      " " ++ "style" ++ "=\"" ++ declarations.inline ++ "\"" := rfl
  rw [spelled]
  exact .plain (by decide) (Declarations.isPlain_inline plain)

theorem readsAttributes_titleOf (title : Option String) :
    ReadsAttributes (Styled.titleAttribute title) (titleOf title) := by
  cases title with
  | none => exact .nil
  | some title =>
      by_cases empty : title.isEmpty = true
      · simpa [Styled.titleAttribute, titleOf, empty] using ReadsAttributes.nil
      · have name : isAttributeName "title" = true := by decide
        simpa [Styled.titleAttribute, titleOf, empty] using ReadsAttributes.escaped name title

theorem readsAttributes_plainAttributes {attributes : List (String × AttributeValue)}
    (names : ∀ entry ∈ attributes, isAttributeName entry.1 = true) :
    ReadsAttributes (plainAttributes attributes) (shownAttributes attributes) := by
  induction attributes with
  | nil => exact .nil
  | cons first others ih =>
      have readsFirst := ReadsAttributes.escaped (names first List.mem_cons_self) first.2.shown
      have readsOthers := ih fun entry member => names entry (List.mem_cons_of_mem _ member)
      have spelled : plainAttributes (first :: others) =
          Styled.attributeText first.1 first.2.shown ++ plainAttributes others := by
        apply String.toList_inj.mp
        simp [plainAttributes, String.toList_join]
      rw [spelled]
      exact readsFirst.append readsOthers

/-! ## Reading nodes back -/

variable {settings : Settings} {html content : String} {inner : List Token}

/-- An element on a line of its own. -/
theorem reads_line {name attributesHtml : String} {attributes : List Attribute}
    (isName : isTagName name = true) (readsAttributes : ReadsAttributes attributesHtml attributes)
    (readsContent : Reads content inner) :
    Reads (Styled.element name attributesHtml content ++ "\n")
      (enclose name attributes inner ++ lineEnd) :=
  (Reads.element isName readsAttributes readsContent).append .lineFeed

theorem isTagName_of_mem_headingTags {tag : String} (member : tag ∈ headingTags) :
    isTagName tag = true := by
  have all : headingTags.all isTagName = true := by decide
  exact List.all_eq_true.mp all tag member

/-- The level of a heading is the digit of its tag; the first two levels have
looks of their own. -/
theorem headingLevel_cases {tag : String} (member : tag ∈ headingTags) :
    (tag = "h1" ∧ headingLevel tag = .ok 1) ∨ (tag = "h2" ∧ headingLevel tag = .ok 2) ∨
      (tag ≠ "h1" ∧ tag ≠ "h2" ∧ ∃ level : Int, 2 < level ∧ level ≤ 6 ∧
        headingLevel tag = .ok level ∧ "h" ++ Number.intText level = tag) := by
  simp only [headingTags, List.mem_cons, List.not_mem_nil, or_false] at member
  rcases member with rfl | rfl | rfl | rfl | rfl | rfl
  · exact .inl ⟨rfl, rfl⟩
  · exact .inr (.inl ⟨rfl, rfl⟩)
  · exact .inr (.inr ⟨by decide, by decide, 3, by decide, by decide, rfl, rfl⟩)
  · exact .inr (.inr ⟨by decide, by decide, 4, by decide, by decide, rfl, rfl⟩)
  · exact .inr (.inr ⟨by decide, by decide, 5, by decide, by decide, rfl, rfl⟩)
  · exact .inr (.inr ⟨by decide, by decide, 6, by decide, by decide, rfl, rfl⟩)

theorem headingSize_of_two_lt {level : Int} (deep : 2 < level) :
    Style.headingSize level settings = Style.headingSize 3 settings := by
  have notFirst : level ≠ 1 := by omega
  have notSecond : level ≠ 2 := by omega
  simp [Style.headingSize, Style.headingScale, notFirst, notSecond]

theorem sizeText_ok (size : String) : sizeText (.ok size) = size :=
  rfl

/-- A heading reads as the element that its tag asks for. -/
theorem reads_heading (plainColors : settings.PlainColors) {tag : String}
    (member : tag ∈ headingTags) {level : Int} (leveled : headingLevel tag = .ok level)
    (rendered : Styled.html (.heading level content) settings = .ok html)
    (readsContent : Reads content inner) : Reads html (headingTokens tag settings inner) := by
  rw [Styled.html, bind_eq_ok_iff] at rendered
  obtain ⟨size, sized, rendered⟩ := rendered
  obtain ⟨-, -, written⟩ := bind_eq_ok_iff.mp rendered
  cases written
  have sizePlain := Style.isPlain_scaledSize sized
  rcases headingLevel_cases member with
    ⟨rfl, first⟩ | ⟨rfl, second⟩ | ⟨notFirst, notSecond, deeper, deep, -, deepLevel, spelled⟩
  · cases leveled.symm.trans first
    rw [headingTokens, if_pos rfl, sized, sizeText_ok]
    exact reads_line (by decide)
      (readsAttributes_styleOf (Styled.isPlain_headingStyle plainColors sizePlain)) readsContent
  · cases leveled.symm.trans second
    rw [headingTokens, if_neg (by decide), if_pos rfl, sized, sizeText_ok]
    have isName : isTagName "span" = true := by decide
    have readsInner := Reads.element isName
      (readsAttributes_styleOf (Styled.isPlain_subheadingInnerStyle plainColors sizePlain))
      readsContent
    exact reads_line (by decide) (readsAttributes_styleOf (by decide)) readsInner
  · cases leveled.symm.trans deepLevel
    have notOne : level ≠ 1 := by omega
    have notTwo : level ≠ 2 := by omega
    rw [headingSize_of_two_lt deep] at sized
    rw [headingTokens, if_neg notFirst, if_neg notSecond, sized, sizeText_ok, Styled.headingHtml,
      if_neg notOne, if_neg notTwo, spelled]
    exact reads_line (isTagName_of_mem_headingTags member)
      (readsAttributes_styleOf (Styled.isPlain_minorHeadingStyle plainColors sizePlain))
      readsContent

theorem reads_blockquote (plainColors : settings.PlainColors)
    (rendered : Styled.html (.blockquote content) settings = .ok html)
    (readsContent : Reads content inner) :
    Reads html (enclose "blockquote"
      [styleOf (Styled.quoteStyle (sizeText (Style.quoteSize settings)) settings)] inner ++
        lineEnd) := by
  rw [Styled.html, bind_eq_ok_iff] at rendered
  obtain ⟨size, sized, written⟩ := rendered
  cases written
  have sizePlain := Style.isPlain_scaledSize sized
  rw [sized, sizeText_ok]
  exact reads_line (by decide)
    (readsAttributes_styleOf (Styled.isPlain_quoteStyle plainColors sizePlain)) readsContent

/-- An ordered list reads as an element with the number of its first item. -/
theorem reads_orderedList (plainColors : settings.PlainColors)
    {attributes : List (String × AttributeValue)} {start : Int}
    (numbers : ∀ value, ("start", value) ∈ attributes →
      ∃ n writable, value = .number (.int n) writable)
    (started : listStart attributes = .ok start)
    (rendered : Styled.html (.list true content start) settings = .ok html)
    (readsContent : Reads content inner) :
    Reads html (enclose "ol" (startOf attributes ++ [styleOf (Styled.listStyle settings)])
      (lineEnd ++ inner) ++ lineEnd) := by
  obtain ⟨-, -, written⟩ := bind_eq_ok_iff.mp rendered
  cases written
  have startIs : startOf attributes =
      if start = 1 then [] else [("start", Number.intText start)] := by
    unfold listStart at started
    unfold startOf
    cases found : attributes.lookup "start" with
    | none =>
        rw [found] at started
        cases started
        rfl
    | some value =>
        obtain ⟨n, writable, rfl⟩ := numbers value (mem_of_lookup_eq_some found)
        rw [found] at started
        cases started
        rfl
  have readsStart : ReadsAttributes
      (if start = 1 then "" else " start=\"" ++ Number.intText start ++ "\"")
      (startOf attributes) := by
    rw [startIs]
    split
    · exact .nil
    · have spelled : " start=\"" = " " ++ "start" ++ "=\"" := by decide
      rw [spelled]
      exact .plain (by decide) (Text.isPlain_of_isNumeral (Number.isNumeral_intText start))
  have written : (if (true && decide (start ≠ 1)) = true then
      " start=\"" ++ Number.intText start ++ "\"" else "") =
        if start = 1 then "" else " start=\"" ++ Number.intText start ++ "\"" := by
    by_cases one : start = 1 <;> simp [one]
  rw [written]
  exact reads_line (by decide)
    (readsStart.append (readsAttributes_styleOf (Styled.isPlain_listStyle plainColors)))
    (Reads.lineFeed.append readsContent)

theorem reads_lineBreak : Reads "<br />\n" (.single "br" [] :: lineEnd) := by
  have spelled : "<br />\n" = ("<" ++ "br" ++ "" ++ " />") ++ "\n" := by decide
  rw [spelled]
  exact (Reads.single (by decide) .nil).append .lineFeed

theorem reads_horizontalRule (plainColors : settings.PlainColors) :
    Reads ("<hr" ++ Styled.styleAttribute (Styled.horizontalRuleStyle settings) ++ " />\n")
      (.single "hr" [styleOf (Styled.horizontalRuleStyle settings)] :: lineEnd) := by
  have spelled : ∀ html, "<hr" ++ html ++ " />\n" = ("<" ++ "hr" ++ html ++ " />") ++ "\n" := by
    intro html
    apply String.toList_inj.mp
    simp
  rw [spelled]
  exact (Reads.single (by decide)
    (readsAttributes_styleOf (Styled.isPlain_horizontalRuleStyle plainColors))).append .lineFeed

/-- An image reads as one tag with its address, its text and its title. -/
theorem reads_image (address text : String) (title : Option String) :
    Reads ("<img" ++ Styled.attributeText "src" address ++ Styled.attributeText "alt" text ++
        Styled.titleAttribute title ++ Styled.styleAttribute Styled.imageStyle ++ " />")
      [.single "img" ([("src", address), ("alt", text)] ++ titleOf title ++
        [styleOf Styled.imageStyle])] := by
  have spelled : ∀ source alternative titleHtml style : String,
      "<img" ++ source ++ alternative ++ titleHtml ++ style ++ " />" =
        "<" ++ "img" ++ (source ++ alternative ++ titleHtml ++ style) ++ " />" := by
    intro source alternative titleHtml style
    apply String.toList_inj.mp
    simp
  rw [spelled]
  have source : ReadsAttributes (Styled.attributeText "src" address) [("src", address)] :=
    .escaped (by decide) address
  have alternative : ReadsAttributes (Styled.attributeText "alt" text) [("alt", text)] :=
    .escaped (by decide) text
  have stylePlain : Styled.imageStyle.isPlain = true := by decide
  have style := readsAttributes_styleOf stylePlain
  exact .single (by decide)
    (((source.append alternative).append (readsAttributes_titleOf title)).append style)

/-- A link reads as an element with its address and its title. -/
theorem reads_link (plainColors : settings.PlainColors) (address : String)
    (title : Option String) (readsContent : Reads content inner) :
    Reads (Styled.element "a" (Styled.attributeText "href" address ++
        Styled.titleAttribute title ++ Styled.styleAttribute (Styled.linkStyle settings)) content)
      (enclose "a" (("href", address) :: titleOf title ++ [styleOf (Styled.linkStyle settings)])
        inner) := by
  have target : ReadsAttributes (Styled.attributeText "href" address) [("href", address)] :=
    .escaped (by decide) address
  have style := readsAttributes_styleOf (Styled.isPlain_linkStyle plainColors)
  exact .element (by decide)
    ((target.append (readsAttributes_titleOf title)).append style) readsContent

theorem isEmpty_eq_false_of_isTagName {name : String} (isName : isTagName name = true) :
    name.isEmpty = false := by
  obtain ⟨c, rest, spelled, -⟩ := exists_cons_of_isTagName isName
  apply Bool.eq_false_iff.mpr
  intro empty
  rw [String.isEmpty_iff.mp empty] at spelled
  contradiction

/-- A node without a styled form reads as an element if it has a tag. -/
theorem reads_plainElement {node : Node} (isName : isTagName node.tag = true)
    (names : ∀ entry ∈ node.attributes, isAttributeName entry.1 = true)
    (readsContent : Reads content inner) :
    Reads (plainElement node content) (plainTokens node inner) := by
  have nonempty := isEmpty_eq_false_of_isTagName isName
  have attributes := readsAttributes_plainAttributes names
  unfold plainElement plainTokens
  simp only [nonempty, Bool.false_eq_true, if_false]
  split
  · exact .element isName attributes readsContent
  · split
    · exact reads_line isName attributes readsContent
    · exact reads_line isName attributes (Reads.lineFeed.append readsContent)

/-- The HTML of a node whose children are rendered reads as the tokens around
those of the children. -/
theorem reads_finish (plainColors : settings.PlainColors) {node : Node}
    (wellFormed : node.WellFormed) (finished : finish .builtin settings node content = .ok html)
    (readsContent : node.role ≠ .image → Reads content inner) :
    Reads html (tokensAround settings node inner) := by
  rcases node with ⟨role, tag, attributes, text, info, hidden, block, children⟩
  cases role with
  | root | inline =>
      cases finished
      exact readsContent nofun
  | text | htmlBlock | htmlInline =>
      cases finished
      exact .escaped text
  | softBreak | hardBreak =>
      cases finished
      exact reads_lineBreak
  | heading =>
      cases leveled : headingLevel tag with
      | error fault => simp [finish, styled?, leveled, Except.map] at finished
      | ok level =>
          simp only [finish, styled?, leveled, Except.map, RuleTable.render_builtin] at finished
          exact reads_heading plainColors (wellFormed.headingTag rfl) leveled finished
            (readsContent nofun)
  | paragraph =>
      cases hidden with
      | true =>
          cases finished
          exact readsContent nofun
      | false =>
          obtain ⟨-, -, written⟩ := bind_eq_ok_iff.mp finished
          cases written
          exact reads_line (by decide)
            (readsAttributes_styleOf (Style.isPlain_paragraph plainColors)) (readsContent nofun)
  | blockquote => exact reads_blockquote plainColors finished (readsContent nofun)
  | fence | codeBlock =>
      obtain ⟨-, -, written⟩ := bind_eq_ok_iff.mp finished
      cases written
      exact reads_line (by decide)
        (readsAttributes_styleOf (Style.isPlain_codeBlock plainColors))
        (Reads.element (by decide) .nil (.escaped text))
  | inlineCode =>
      cases finished
      exact .element (by decide) (readsAttributes_styleOf (by decide)) (.escaped text)
  | strong =>
      cases finished
      exact .element (by decide) (readsAttributes_styleOf (Styled.isPlain_strongStyle plainColors))
        (readsContent nofun)
  | bulletList =>
      obtain ⟨-, -, written⟩ := bind_eq_ok_iff.mp finished
      cases written
      exact reads_line (by decide)
        (readsAttributes_styleOf (Styled.isPlain_listStyle plainColors))
        (Reads.lineFeed.append (readsContent nofun))
  | orderedList =>
      cases started : listStart attributes with
      | error fault => simp [finish, styled?, started, Except.map] at finished
      | ok start =>
          simp only [finish, styled?, started, Except.map, RuleTable.render_builtin] at finished
          exact reads_orderedList plainColors wellFormed.start started finished
            (readsContent nofun)
  | listItem =>
      cases finished
      exact reads_line (by decide) (readsAttributes_styleOf (by decide)) (readsContent nofun)
  | image =>
      cases finished
      exact reads_image _ _ _
  | link =>
      cases finished
      exact reads_link plainColors _ _ (readsContent nofun)
  | horizontalRule =>
      cases finished
      exact reads_horizontalRule plainColors
  | other name =>
      cases finished
      rcases wellFormed.tag rfl with rfl | isName
      · exact readsContent nofun
      · have nonempty := isEmpty_eq_false_of_isTagName isName
        simp only [Node.plain, tokensAround, nonempty, Bool.false_eq_true, if_false]
        exact reads_plainElement isName wellFormed.attributeNames (readsContent nofun)

/-- The HTML of trees reads as their tokens if that of each tree does. -/
theorem reads_renderAll {trees : List Node}
    (each : ∀ tree ∈ trees, ∀ {html}, tree.render .builtin settings = .ok html →
      Reads html (tree.tokens settings))
    {html : String} (rendered : renderAll .builtin settings trees = .ok html) :
    Reads html (allTokens settings trees) := by
  induction trees generalizing html with
  | nil =>
      cases rendered
      exact .nil
  | cons first others ih =>
      obtain ⟨front, renderedFirst, rest, renderedOthers, rfl⟩ :=
        renderAll_cons_eq_ok_iff.mp rendered
      exact (each first List.mem_cons_self renderedFirst).append
        (ih (fun tree member => each tree (List.mem_cons_of_mem _ member)) renderedOthers)

/-- The HTML of a tree reads as its tokens. -/
theorem reads_render (plainColors : settings.PlainColors) {tree : Node}
    (wellFormed : ∀ node ∈ tree.nodes, node.WellFormed) {html : String}
    (rendered : tree.render .builtin settings = .ok html) :
    Reads html (tree.tokens settings) := by
  induction tree using Node.induction generalizing html with
  | step tree ih =>
      obtain ⟨root, below⟩ := forall_mem_nodes_iff.mp wellFormed
      obtain ⟨inner, renderedChildren, finished⟩ := render_eq_ok_iff.mp rendered
      rw [tokens_eq]
      apply reads_finish plainColors root finished
      intro notImage
      rw [if_neg notImage] at renderedChildren
      refine reads_renderAll ?_ renderedChildren
      intro child member html renderedChild
      exact ih child member (below child member) renderedChild

/-- Reading the HTML of a tree gives back the tokens of the tree: no content is
taken for markup, and no markup is lost. -/
theorem read_render {settings : Settings} (plainColors : settings.PlainColors) {tree : Node}
    (wellFormed : ∀ node ∈ tree.nodes, node.WellFormed) {html : String}
    (rendered : tree.render .builtin settings = .ok html) :
    read html = some (join (tree.tokens settings)) :=
  (reads_render plainColors wellFormed rendered).read_eq

/-- A heading, a picture and a table cell whose texts look like markup. -/
def specimen : Node where
  role := .root
  children :=
    [{ role := .heading, tag := "h2", block := true
       children := [{ role := .text, content := "a < b & \"c\"" }] },
      { role := .image, tag := "img"
        attributes := [("src", .text "?a=1&b='2'"), ("title", .text "<b>")] },
      { role := .other "td", tag := "td", attributes := [("style", .text "x")], block := true
        children := [{ role := .htmlInline, content := "<br>" }] }]

theorem wellFormed_specimen : ∀ node ∈ specimen.nodes, node.WellFormed := by
  simp only [specimen, nodes, allNodes, List.append_nil, List.cons_append, List.nil_append,
    List.forall_mem_cons]
  refine ⟨?_, ?_, ?_, ?_, ?_, ?_, List.forall_mem_nil _⟩
  all_goals exact ⟨by decide, by decide, by decide, by simp⟩

theorem read_render_specimen :
    ∃ html, specimen.render .builtin {} = .ok html ∧
      read html = some (join (specimen.tokens {})) := by
  have plainColors : Settings.PlainColors {} := ⟨rfl, rfl, rfl, rfl⟩
  have renders : (specimen.render .builtin {}).isOk = true := by decide +kernel
  obtain ⟨html, rendered⟩ := isOk_iff.mp renders
  exact ⟨html, rendered, read_render plainColors wellFormed_specimen rendered⟩

end Typeset.Node
