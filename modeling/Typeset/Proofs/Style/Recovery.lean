import Typeset.Proofs.Html.Written
import Typeset.Proofs.Number.CssText
import Typeset.Proofs.Text.Lines
import Typeset.Styled.RuleTable
import Typeset.Proofs.Tree.Nodes

/-!
# Nodes recovered from their HTML

What the built-in rule of a node has written begins with a tag that tells the kind of the node.
The values of attributes end at their closing quotes, because escaped values hold none, and what
is left is the content in fixed surroundings.  None of this depends on what the content is or on
the settings.

Main statement: two nodes of the same HTML differ at most in what is never written, which is the
language of code, the number of a list without numbers and an empty title.
-/

namespace Typeset

namespace Text

theorem escape_injective {text other : String} (equal : escape text = escape other) :
    text = other := by
  have chars := congrArg String.toList equal
  rw [toList_escape, toList_escape] at chars
  have run := Html.run_escape .empty text.toList
  rw [chars, Html.run_escape .empty other.toList, String.ofList_toList, String.ofList_toList] at run
  simpa [Html.Gathered.push, Html.Gathered.empty, eq_comm] using run

theorem escapeAttribute_injective {value other : String}
    (equal : escapeAttribute value = escapeAttribute other) : value = other := by
  have chars := congrArg String.toList equal
  rw [toList_escapeAttribute, toList_escapeAttribute] at chars
  have run := Html.run_escapeAttribute .empty ⟨"", []⟩ "" [] value.toList
  rw [chars, Html.run_escapeAttribute] at run
  apply String.toList_inj.mp
  simpa [eq_comm] using run

/-- Two texts with a mark after each are cut alike at it, if it does not occur in them before. -/
theorem cut_inj {mark first second rest others : String} {c : Char} (single : mark.toList = [c])
    (notFirst : c ∉ first.toList) (notSecond : c ∉ second.toList)
    (equal : first ++ (mark ++ rest) = second ++ (mark ++ others)) :
    first = second ∧ rest = others := by
  have chars := congrArg String.toList equal
  simp only [String.toList_append, single, List.singleton_append] at chars
  obtain ⟨same, sameRest⟩ := eq_of_append_mark notFirst notSecond chars
  exact ⟨String.toList_inj.mp same, String.toList_inj.mp sameRest⟩

/-- An escaped value holds no quote. -/
theorem quote_notMem_escapeAttribute (value : String) : '\x22' ∉ (escapeAttribute value).toList := by
  rw [toList_escapeAttribute, List.mem_flatMap]
  rintro ⟨c, -, member⟩
  unfold escapeAttributeChar escapeChar at member
  split_ifs at member with quote
  · simp at member
  · simp at member
  · simp at member
  · simp at member
  · simp at member
  · exact quote (beq_iff_eq.mpr (List.mem_singleton.mp member).symm)

end Text

namespace Number

/-- Whether a character may stand in the text of an integer. -/
def isIntChar (c : Char) : Bool :=
  c == '-' || c.isDigit

theorem all_isIntChar_intText (n : Int) : (intText n).toList.all isIntChar = true := by
  have digits : (digitsText n.natAbs).all isIntChar = true := by
    apply List.all_eq_true.mpr
    intro c member
    have digit : c.isDigit = true := Nat.isDigit_of_mem_toDigits (by decide) (by decide) member
    simp [isIntChar, digit]
  have minus : isIntChar '-' = true := rfl
  unfold intText
  split
  · simp [minus, digits]
  · simp [digits]

theorem notMem_toList_of_isNumeral {text : String} (numeral : isNumeral text = true) {c : Char}
    (special : isNumeralChar c = false) : c ∉ text.toList := by
  intro member
  exact Bool.false_ne_true (special.symm.trans (List.all_eq_true.mp numeral c member))

end Number

namespace Styled

/-! ## What is written -/

/-- A title, unless it is empty. -/
def shownTitle? (title : Option String) : Option String :=
  title.filter fun text => !text.isEmpty

/-- A node without what is never written: the language of code, the number of the first item of a
list without numbers, and an empty title. -/
def told : Styled → Styled
  | codeBlock code _ => .codeBlock code none
  | list ordered items start => .list ordered items (if ordered then start else 1)
  | image url alt title => .image url alt (shownTitle? title)
  | link url content title => .link url content (shownTitle? title)
  | node => node

theorem kind_told (node : Styled) : node.told.kind = node.kind := by
  cases node <;> rfl

/-- Whether a node is a hidden paragraph, whose HTML is its content alone. -/
def isHidden : Styled → Bool
  | paragraph _ hidden => hidden
  | _ => false

/-- A title is written unless it is missing or empty. -/
theorem titleAttribute_eq (title : Option String) :
    titleAttribute title = ((shownTitle? title).map (attributeText "title")).getD "" := by
  cases title with
  | none => rfl
  | some text =>
      rw [titleAttribute, shownTitle?, Option.filter_some]
      by_cases empty : text.isEmpty = true
      · simp only [empty, Bool.not_true, Bool.false_eq_true, if_false, if_true, Option.map_none,
          Option.getD_none]
      · simp only [Bool.eq_false_iff.mpr empty, Bool.not_false, Bool.false_eq_true, if_false,
          if_true, Option.map_some, Option.getD_some]

theorem titleAttribute_shownTitle? (title : Option String) :
    titleAttribute (shownTitle? title) = titleAttribute title := by
  rw [titleAttribute_eq, titleAttribute_eq title, shownTitle?, shownTitle?, Option.filter_filter]
  simp only [Bool.and_self]

/-- What is never written changes nothing, whether there is HTML or an error. -/
theorem html_told (node : Styled) (settings : Settings) :
    node.told.html settings = node.html settings := by
  cases node with
  | list ordered items start => cases ordered <;> rfl
  | image url alt title => simp only [told, html, titleAttribute_shownTitle?]
  | link url content title => simp only [told, html, titleAttribute_shownTitle?]
  | _ => rfl

/-! ## The first tag -/

/-- The name of the tag with which the HTML of a node begins. -/
def firstTag : Styled → String
  | heading level _ => if level = 2 then "section" else "h" ++ Number.intText level
  | paragraph .. => "p"
  | blockquote .. => "blockquote"
  | codeBlock .. => "pre"
  | inlineCode .. => "code"
  | strong .. => "strong"
  | list ordered .. => if ordered then "ol" else "ul"
  | listItem .. => "li"
  | image .. => "img"
  | link .. => "a"
  | horizontalRule => "hr"

/-- The kinds of the nodes with a fixed first tag. -/
def fixedTags : List (String × Kind) :=
  [("section", .heading), ("p", .paragraph), ("blockquote", .blockquote), ("pre", .codeBlock),
    ("code", .inlineCode), ("strong", .strong), ("ol", .list), ("ul", .list), ("li", .listItem),
    ("img", .image), ("a", .link), ("hr", .horizontalRule)]

/-- The first tag of a node is a fixed one of its kind, or that of a heading with its level. -/
theorem firstTag_cases (node : Styled) :
    (node.firstTag, node.kind) ∈ fixedTags ∨
      ∃ level, node.firstTag = "h" ++ Number.intText level ∧ node.kind = .heading := by
  cases node with
  | heading level content =>
      by_cases second : level = 2
      · exact .inl (by simp [firstTag, second, kind, fixedTags])
      · exact .inr ⟨level, if_neg second, rfl⟩
  | list ordered items start => cases ordered <;> exact .inl (by simp [firstTag, kind, fixedTags])
  | _ => exact .inl (by simp [firstTag, kind, fixedTags])

/-- The tag of a heading with its level is none of the fixed ones. -/
theorem heading_notMem_fixedTags (level : Int) (kind : Kind) :
    ("h" ++ Number.intText level, kind) ∉ fixedTags := by
  -- Only the tag of a horizontal rule begins with the same letter, and no number follows it.
  have others : ∀ entry ∈ fixedTags, ¬(entry.1.toList.head? = some 'h' ∧
      (entry.1.toList.drop 1).all Number.isIntChar = true) := by
    decide
  intro listed
  apply others _ listed
  rw [String.toList_append]
  exact ⟨rfl, Number.all_isIntChar_intText level⟩

/-- The first tag tells the kind. -/
theorem kind_eq_of_firstTag_eq {node other : Styled} (sameTag : node.firstTag = other.firstTag) :
    node.kind = other.kind := by
  rcases node.firstTag_cases with fixed | ⟨level, leveled, isHeading⟩
  · rcases other.firstTag_cases with otherFixed | ⟨level, leveled, isHeading⟩
    · have distinct : (fixedTags.map Prod.fst).Nodup := by decide
      have found := lookup_eq_some_of_mem distinct fixed
      rw [sameTag, lookup_eq_some_of_mem distinct otherFixed] at found
      exact (Option.some.inj found).symm
    · rw [sameTag, leveled] at fixed
      exact absurd fixed (heading_notMem_fixedTags level _)
  · rcases other.firstTag_cases with otherFixed | ⟨otherLevel, otherLeveled, otherIsHeading⟩
    · rw [← sameTag, leveled] at otherFixed
      exact absurd otherFixed (heading_notMem_fixedTags level _)
    · rw [isHeading, otherIsHeading]

theorem space_notMem_firstTag (node : Styled) : ' ' ∉ node.firstTag.toList := by
  rcases node.firstTag_cases with fixed | ⟨level, leveled, -⟩
  · have spaceless : ∀ entry ∈ fixedTags, ' ' ∉ entry.1.toList := by decide
    exact spaceless _ fixed
  · rw [leveled, String.toList_append, List.mem_append]
    rintro (letter | digits)
    · exact absurd letter (by decide)
    · exact Number.notMem_toList_of_isNumeral (Number.isNumeral_intText level) rfl digits

/-- Some HTML begins with a tag, the name of which is followed by a space. -/
def OpensWith (tag html : String) : Prop :=
  ∃ rest, html = "<" ++ tag ++ " " ++ rest

namespace OpensWith

variable {tag html : String}

theorem append (opens : OpensWith tag html) (more : String) : OpensWith tag (html ++ more) := by
  obtain ⟨rest, rfl⟩ := opens
  exact ⟨rest ++ more, String.append_assoc⟩

/-- A tag is opened when the attributes after its name begin with a space. -/
theorem single {attributes : String} (spaced : attributes.toList.head? = some ' ') (more : String) :
    OpensWith tag ("<" ++ tag ++ attributes ++ more) := by
  obtain ⟨rest, spelled⟩ := List.head?_eq_some_iff.mp spaced
  have split : attributes = " " ++ String.ofList rest := by
    apply String.toList_inj.mp
    simp [spelled]
  refine ⟨String.ofList rest ++ more, ?_⟩
  rw [split]
  simp only [String.append_assoc]

theorem element {attributes : String} (spaced : attributes.toList.head? = some ' ')
    (content : String) : OpensWith tag (Styled.element tag attributes content) := by
  have opens : OpensWith tag _ := single spaced (">" ++ content ++ "</" ++ tag ++ ">")
  simpa only [Styled.element, String.append_assoc] using opens

/-- The first tag ends at the first space. -/
theorem tag_eq {other : String} (noSpace : ' ' ∉ tag.toList) (otherNoSpace : ' ' ∉ other.toList)
    (opens : OpensWith tag html) (opensOther : OpensWith other html) : tag = other := by
  obtain ⟨rest, rfl⟩ := opens
  obtain ⟨otherRest, equal⟩ := opensOther
  rw [String.append_assoc, String.append_assoc, String.append_assoc, String.append_assoc,
    String.append_right_inj] at equal
  exact (Text.cut_inj rfl noSpace otherNoSpace equal).1

end OpensWith

theorem head?_styleAttribute (declarations : Declarations) :
    (styleAttribute declarations).toList.head? = some ' ' := by
  simp [styleAttribute]

theorem head?_attributeText (name value : String) :
    (attributeText name value).toList.head? = some ' ' := by
  simp [attributeText]

/-- The attribute for the number of the first item, left out when there are no numbers or they
begin with one. -/
def startAttribute (ordered : Bool) (start : Int) : String :=
  if ordered && start ≠ 1 then " start=\"" ++ Number.intText start ++ "\"" else ""

theorem head?_startAttribute_append (ordered : Bool) (start : Int) (declarations : Declarations) :
    (startAttribute ordered start ++ styleAttribute declarations).toList.head? = some ' ' := by
  unfold startAttribute
  split
  · simp
  · simp [styleAttribute]

variable {settings : Settings} {html : String}

/-- The HTML of a node begins with its first tag. -/
theorem opensWith_firstTag {node : Styled} (shown : node.isHidden = false)
    (rendered : node.html settings = .ok html) : OpensWith node.firstTag html := by
  cases node with
  | heading level content =>
      obtain ⟨size, -, rendered⟩ := bind_eq_ok_iff.mp rendered
      obtain ⟨-, -, written⟩ := bind_eq_ok_iff.mp rendered
      cases written
      unfold headingHtml
      by_cases first : level = 1
      · subst first
        exact (OpensWith.element (head?_styleAttribute _) _).append _
      · by_cases second : level = 2
        · rw [if_neg first, if_pos second, firstTag, if_pos second]
          exact (OpensWith.element (head?_styleAttribute _) _).append _
        · rw [if_neg first, if_neg second, firstTag, if_neg second]
          exact (OpensWith.element (head?_styleAttribute _) _).append _
  | paragraph content hidden =>
      cases shown
      obtain ⟨-, -, written⟩ := bind_eq_ok_iff.mp rendered
      cases written
      exact (OpensWith.element (head?_styleAttribute _) _).append _
  | blockquote content =>
      obtain ⟨size, -, written⟩ := bind_eq_ok_iff.mp rendered
      cases written
      exact (OpensWith.element (head?_styleAttribute _) _).append _
  | codeBlock code language =>
      obtain ⟨-, -, written⟩ := bind_eq_ok_iff.mp rendered
      cases written
      exact (OpensWith.element (head?_styleAttribute _) _).append _
  | inlineCode text | strong content =>
      cases rendered
      exact OpensWith.element (head?_styleAttribute _) _
  | list ordered items start =>
      obtain ⟨-, -, written⟩ := bind_eq_ok_iff.mp rendered
      cases written
      exact (OpensWith.element (head?_startAttribute_append ordered start _) _).append _
  | listItem content =>
      cases rendered
      exact (OpensWith.element (head?_styleAttribute _) _).append _
  | image url alt title =>
      cases rendered
      have opens : OpensWith "img" _ :=
        .single (head?_attributeText "src" url) (attributeText "alt" alt)
      exact ((opens.append _).append _).append _
  | link url content title =>
      cases rendered
      apply OpensWith.element
      rw [String.append_assoc, String.toList_append, List.head?_append, head?_attributeText]
      rfl
  | horizontalRule =>
      cases rendered
      have opens : OpensWith "hr" _ := .single (head?_styleAttribute (horizontalRuleStyle settings)) " />\n"
      exact opens

/-! ## Contents -/

theorem element_inj {tag attributes content other : String} :
    element tag attributes content = element tag attributes other ↔ content = other := by
  simp [element]

/-- An attribute ends at its closing quote. -/
theorem attributeText_append_inj {name value other rest otherRest : String}
    (equal : attributeText name value ++ rest = attributeText name other ++ otherRest) :
    value = other ∧ rest = otherRest := by
  simp only [attributeText, String.append_assoc, String.append_right_inj] at equal
  obtain ⟨same, sameRest⟩ := Text.cut_inj rfl (Text.quote_notMem_escapeAttribute value)
    (Text.quote_notMem_escapeAttribute other) equal
  exact ⟨Text.escapeAttribute_injective same, sameRest⟩

/-- A title that is written is told from what follows it. -/
theorem titleAttribute_append_inj {title other : Option String} {declarations : Declarations}
    {rest otherRest : String}
    (equal : titleAttribute title ++ (styleAttribute declarations ++ rest) =
      titleAttribute other ++ (styleAttribute declarations ++ otherRest)) :
    shownTitle? title = shownTitle? other ∧ rest = otherRest := by
  rw [titleAttribute_eq, titleAttribute_eq] at equal
  cases shown : shownTitle? title with
  | none =>
      cases otherShown : shownTitle? other with
      | none =>
          rw [shown, otherShown, String.append_right_inj, String.append_right_inj] at equal
          exact ⟨rfl, equal⟩
      | some text =>
          have letter := congrArg (fun html : String => html.toList[1]?) equal
          simp [shown, otherShown, styleAttribute, attributeText] at letter
  | some text =>
      cases otherShown : shownTitle? other with
      | none =>
          have letter := congrArg (fun html : String => html.toList[1]?) equal
          simp [shown, otherShown, styleAttribute, attributeText] at letter
      | some otherText =>
          rw [shown, otherShown] at equal
          obtain ⟨rfl, sameRest⟩ := attributeText_append_inj equal
          exact ⟨rfl, String.append_right_inj _ |>.mp sameRest⟩

/-- The number of a list's first item is told from what follows it. -/
theorem startAttribute_append_inj {ordered : Bool} {start other : Int}
    {declarations : Declarations} {rest otherRest : String}
    (equal : startAttribute ordered start ++ (styleAttribute declarations ++ rest) =
      startAttribute ordered other ++ (styleAttribute declarations ++ otherRest)) :
    (ordered = true → start = other) ∧ rest = otherRest := by
  cases ordered with
  | false =>
      refine ⟨nofun, ?_⟩
      simpa [startAttribute] using equal
  | true =>
      by_cases first : start = 1
      · by_cases otherFirst : other = 1
        · refine ⟨fun _ => first.trans otherFirst.symm, ?_⟩
          simpa [startAttribute, first, otherFirst] using equal
        · have letter := congrArg (fun html : String => html.toList[3]?) equal
          simp [startAttribute, first, otherFirst, styleAttribute] at letter
      · by_cases otherFirst : other = 1
        · have letter := congrArg (fun html : String => html.toList[3]?) equal
          simp [startAttribute, first, otherFirst, styleAttribute] at letter
        · simp only [startAttribute, first, otherFirst, ne_eq, not_false_eq_true, decide_true,
            Bool.and_self, if_true, String.append_assoc, String.append_right_inj] at equal
          have quoteless (n : Int) : '\x22' ∉ (Number.intText n).toList :=
            Number.notMem_toList_of_isNumeral (Number.isNumeral_intText n) rfl
          obtain ⟨same, sameRest⟩ := Text.cut_inj rfl (quoteless start) (quoteless other) equal
          exact ⟨fun _ => Number.intText_injective same, (String.append_right_inj _).mp sameRest⟩

/-! ## Nodes of one kind -/

/-- The content of an element on a line of its own. -/
theorem line_inj {tag attributes content other : String} :
    element tag attributes content ++ "\n" = element tag attributes other ++ "\n" ↔
      content = other := by
  rw [String.append_left_inj, element_inj]

variable {other : Int}

theorem headingHtml_inj {level : Int} {content otherContent size : String} :
    headingHtml level content size settings = headingHtml level otherContent size settings ↔
      content = otherContent := by
  unfold headingHtml
  split_ifs <;> simp [element]

/-- The level of a heading is in its first tag. -/
theorem level_eq_of_firstTag_eq {level : Int} {content otherContent : String}
    (sameTag : (heading level content).firstTag = (heading other otherContent).firstTag) :
    level = other := by
  have fixed : ∀ n : Int, "section" ≠ "h" ++ Number.intText n := by
    intro n equal
    have letter := congrArg (fun tag : String => tag.toList.head?) equal
    simp at letter
  simp only [firstTag] at sameTag
  split_ifs at sameTag with second otherSecond otherSecond
  · exact second.trans otherSecond.symm
  · exact absurd sameTag (fixed other)
  · exact absurd sameTag.symm (fixed level)
  · exact Number.intText_injective ((String.append_right_inj _).mp sameTag)

theorem html_heading_inj {level : Int} {content otherContent : String}
    (rendered : (heading level content).html settings = .ok html)
    (otherRendered : (heading level otherContent).html settings = .ok html) :
    content = otherContent := by
  obtain ⟨size, sized, rendered⟩ := bind_eq_ok_iff.mp rendered
  obtain ⟨otherSize, otherSized, otherRendered⟩ := bind_eq_ok_iff.mp otherRendered
  obtain rfl := Except.ok.inj (sized.symm.trans otherSized)
  obtain ⟨-, -, written⟩ := bind_eq_ok_iff.mp rendered
  obtain ⟨-, -, otherWritten⟩ := bind_eq_ok_iff.mp otherRendered
  exact headingHtml_inj.mp (Except.ok.inj (written.trans otherWritten.symm))

theorem html_paragraph_inj {content otherContent : String}
    (rendered : (paragraph content false).html settings = .ok html)
    (otherRendered : (paragraph otherContent false).html settings = .ok html) :
    content = otherContent := by
  obtain ⟨-, -, written⟩ := bind_eq_ok_iff.mp rendered
  obtain ⟨-, -, otherWritten⟩ := bind_eq_ok_iff.mp otherRendered
  exact line_inj.mp (Except.ok.inj (written.trans otherWritten.symm))

theorem html_blockquote_inj {content otherContent : String}
    (rendered : (blockquote content).html settings = .ok html)
    (otherRendered : (blockquote otherContent).html settings = .ok html) :
    content = otherContent := by
  obtain ⟨size, sized, written⟩ := bind_eq_ok_iff.mp rendered
  obtain ⟨otherSize, otherSized, otherWritten⟩ := bind_eq_ok_iff.mp otherRendered
  obtain rfl := Except.ok.inj (sized.symm.trans otherSized)
  exact line_inj.mp (Except.ok.inj (written.trans otherWritten.symm))

theorem html_codeBlock_inj {code otherCode : String} {language otherLanguage : Option String}
    (rendered : (codeBlock code language).html settings = .ok html)
    (otherRendered : (codeBlock otherCode otherLanguage).html settings = .ok html) :
    code = otherCode := by
  obtain ⟨-, -, written⟩ := bind_eq_ok_iff.mp rendered
  obtain ⟨-, -, otherWritten⟩ := bind_eq_ok_iff.mp otherRendered
  have boxed := line_inj.mp (Except.ok.inj (written.trans otherWritten.symm))
  exact Text.escape_injective (element_inj.mp boxed)

theorem ordered_eq_of_firstTag_eq {ordered otherOrdered : Bool} {items otherItems : String}
    {start : Int}
    (sameTag : (list ordered items start).firstTag =
      (list otherOrdered otherItems other).firstTag) : ordered = otherOrdered := by
  cases ordered <;> cases otherOrdered <;> simp_all [firstTag]

theorem html_list_inj {ordered : Bool} {items otherItems : String} {start : Int}
    (rendered : (list ordered items start).html settings = .ok html)
    (otherRendered : (list ordered otherItems other).html settings = .ok html) :
    (ordered = true → start = other) ∧ items = otherItems := by
  obtain ⟨-, -, written⟩ := bind_eq_ok_iff.mp rendered
  obtain ⟨-, -, otherWritten⟩ := bind_eq_ok_iff.mp otherRendered
  have equal : element (if ordered then "ol" else "ul")
        (startAttribute ordered start ++ styleAttribute (listStyle settings))
        ("\n" ++ items) ++ "\n" =
      element (if ordered then "ol" else "ul")
        (startAttribute ordered other ++ styleAttribute (listStyle settings))
        ("\n" ++ otherItems) ++ "\n" :=
    Except.ok.inj (written.trans otherWritten.symm)
  simp only [element, String.append_assoc, String.append_right_inj] at equal
  obtain ⟨sameStart, sameRest⟩ := startAttribute_append_inj equal
  exact ⟨sameStart, by simpa using sameRest⟩

theorem html_image_inj {url otherUrl alt otherAlt : String} {title otherTitle : Option String}
    (rendered : (image url alt title).html settings = .ok html)
    (otherRendered : (image otherUrl otherAlt otherTitle).html settings = .ok html) :
    url = otherUrl ∧ alt = otherAlt ∧ shownTitle? title = shownTitle? otherTitle := by
  have equal := Except.ok.inj (rendered.trans otherRendered.symm)
  simp only [String.append_assoc, String.append_right_inj] at equal
  obtain ⟨sameUrl, equal⟩ := attributeText_append_inj equal
  obtain ⟨sameAlt, equal⟩ := attributeText_append_inj equal
  exact ⟨sameUrl, sameAlt, (titleAttribute_append_inj equal).1⟩

theorem html_link_inj {url otherUrl content otherContent : String}
    {title otherTitle : Option String} (rendered : (link url content title).html settings = .ok html)
    (otherRendered : (link otherUrl otherContent otherTitle).html settings = .ok html) :
    url = otherUrl ∧ content = otherContent ∧ shownTitle? title = shownTitle? otherTitle := by
  have equal := Except.ok.inj (rendered.trans otherRendered.symm)
  simp only [element, String.append_assoc, String.append_right_inj] at equal
  obtain ⟨sameUrl, equal⟩ := attributeText_append_inj equal
  obtain ⟨sameTitle, sameRest⟩ := titleAttribute_append_inj equal
  exact ⟨sameUrl, by simpa using sameRest, sameTitle⟩

/-! ## Any two nodes -/

/-- Nodes of the same HTML are told alike, unless one of them is a hidden paragraph. -/
theorem told_eq_of_html_eq {node other : Styled} (shown : node.isHidden = false)
    (otherShown : other.isHidden = false) (rendered : node.html settings = .ok html)
    (otherRendered : other.html settings = .ok html) : node.told = other.told := by
  have sameTag : node.firstTag = other.firstTag :=
    OpensWith.tag_eq node.space_notMem_firstTag other.space_notMem_firstTag
      (opensWith_firstTag shown rendered) (opensWith_firstTag otherShown otherRendered)
  -- The content may imitate any HTML, but it comes after the first tag.
  have sameKind : node.kind = other.kind := kind_eq_of_firstTag_eq sameTag
  cases node with
  | heading level content =>
      cases other with
      | heading otherLevel otherContent =>
          obtain rfl := level_eq_of_firstTag_eq sameTag
          rw [html_heading_inj rendered otherRendered]
      | _ => contradiction
  | paragraph content hidden =>
      cases other with
      | paragraph otherContent otherHidden =>
          cases shown
          cases otherShown
          rw [html_paragraph_inj rendered otherRendered]
      | _ => contradiction
  | blockquote content =>
      cases other with
      | blockquote otherContent => rw [html_blockquote_inj rendered otherRendered]
      | _ => contradiction
  | codeBlock code language =>
      cases other with
      | codeBlock otherCode otherLanguage =>
          rw [told, told, html_codeBlock_inj rendered otherRendered]
      | _ => contradiction
  | inlineCode text =>
      cases other with
      | inlineCode otherText =>
          have escaped := element_inj.mp (Except.ok.inj (rendered.trans otherRendered.symm))
          rw [Text.escape_injective escaped]
      | _ => contradiction
  | strong content =>
      cases other with
      | strong otherContent =>
          rw [element_inj.mp (Except.ok.inj (rendered.trans otherRendered.symm))]
      | _ => contradiction
  | list ordered items start =>
      cases other with
      | list otherOrdered otherItems otherStart =>
          obtain rfl := ordered_eq_of_firstTag_eq sameTag
          obtain ⟨sameStart, rfl⟩ := html_list_inj rendered otherRendered
          cases ordered with
          | false => rfl
          | true => rw [sameStart rfl]
      | _ => contradiction
  | listItem content =>
      cases other with
      | listItem otherContent =>
          rw [line_inj.mp (Except.ok.inj (rendered.trans otherRendered.symm))]
      | _ => contradiction
  | image url alt title =>
      cases other with
      | image otherUrl otherAlt otherTitle =>
          obtain ⟨rfl, rfl, sameTitle⟩ := html_image_inj rendered otherRendered
          rw [told, told, sameTitle]
      | _ => contradiction
  | link url content title =>
      cases other with
      | link otherUrl otherContent otherTitle =>
          obtain ⟨rfl, rfl, sameTitle⟩ := html_link_inj rendered otherRendered
          rw [told, told, sameTitle]
      | _ => contradiction
  | horizontalRule =>
      cases other with
      | horizontalRule => rfl
      | _ => contradiction

/-- The built-in rules lose nothing that they write.  Nodes of the same HTML are of the same kind
and have the same fields, whatever their texts and numbers are, unless one of them is a hidden
paragraph.  The language of code, the number of a list without numbers and an empty title cannot
be told, because they never change the outcome. -/
theorem render_recovers (settings : Settings) (node other : Styled) :
    RuleTable.builtin.render node.told settings = RuleTable.builtin.render node settings ∧
      ∀ html, node.isHidden = false → other.isHidden = false →
        RuleTable.builtin.render node settings = .ok html →
        RuleTable.builtin.render other settings = .ok html →
        node.kind = other.kind ∧ node.told = other.told := by
  simp only [RuleTable.render_builtin]
  refine ⟨html_told node settings, ?_⟩
  intro html shown otherShown rendered otherRendered
  have same := told_eq_of_html_eq shown otherShown rendered otherRendered
  refine ⟨?_, same⟩
  rw [← kind_told node, ← kind_told other, same]

theorem render_recovers_untitled :
    ∃ html, RuleTable.builtin.render (.link "?q=\"a\"" "b" (some "")) {} = .ok html ∧
      RuleTable.builtin.render (.link "?q=\"a\"" "b" none) {} = .ok html ∧
      (link "?q=\"a\"" "b" (some "")).told = (link "?q=\"a\"" "b" none).told :=
  ⟨_, rfl, rfl, ((render_recovers {} _ _).2 _ rfl rfl rfl rfl).2⟩

end Styled

end Typeset
