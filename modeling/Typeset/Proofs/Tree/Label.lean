import Mathlib.Logic.Relation
import Typeset.Proofs.Tree.Rendered
import Typeset.Proofs.Tree.Walk

/-!
# Labels of images

An image shows the text of its label, and none of the markup in it.  The text is read off the
label in document order: the contents of texts and of code, and a new line for each break.  What
stands below such a node is not part of it.

Main statement: the alternative text of a rendered image decodes to exactly this text, putting
runs of the label into emphasis, links or other images changes nothing, and the one rule that is
called is that of the image.
-/

namespace Typeset.Node

/-! ## The text of a label -/

/-- Whether the nodes of a role hold a text: texts, code inside a line and breaks
do. -/
def holdsText : Role → Bool
  | .text | .inlineCode | .softBreak | .hardBreak => true
  | _ => false

/-- The text of such a node. -/
def ownText (node : Node) : String :=
  match node.role with
  | .softBreak | .hardBreak => "\n"
  | _ => node.content

mutual

/-- The nodes of a tree in document order, each with the nodes above it. -/
def placed (above : List Node) : Node → List (List Node × Node)
  | ⟨role, tag, attributes, content, info, hidden, block, children⟩ =>
      let node : Node := ⟨role, tag, attributes, content, info, hidden, block, children⟩
      (above, node) :: allPlaced (node :: above) children

/-- The nodes of trees in document order, each with the nodes above it. -/
def allPlaced (above : List Node) : List Node → List (List Node × Node)
  | [] => []
  | node :: nodes => placed above node ++ allPlaced above nodes

end

/-- Whether a placed node holds a text and no node above it does. -/
def isTopmost (place : List Node × Node) : Bool :=
  holdsText place.2.role && place.1.all fun outer => !holdsText outer.role

/-- The topmost nodes of trees that hold a text, in document order. -/
def topmost (trees : List Node) : List Node :=
  ((allPlaced [] trees).filter isTopmost).map Prod.snd

/-- The text of a label: the texts of its topmost nodes, one after the other. -/
def labelText (label : List Node) : String :=
  String.join ((topmost label).map ownText)

theorem placed_eq (above : List Node) (tree : Node) :
    tree.placed above = (above, tree) :: allPlaced (tree :: above) tree.children := by
  cases tree
  rfl

theorem plainText_of_holdsText {node : Node} (holds : holdsText node.role = true) :
    node.plainText = node.ownText := by
  rcases node with ⟨role, tag, attributes, content, info, hidden, block, children⟩
  cases role <;> first | rfl | contradiction

theorem plainText_of_not_holdsText {node : Node} (silent : holdsText node.role = false) :
    node.plainText = plainTexts node.children := by
  rcases node with ⟨role, tag, attributes, content, info, hidden, block, children⟩
  cases role <;> first | rfl | contradiction

theorem mem_allPlaced_iff {place : List Node × Node} {above trees : List Node} :
    place ∈ allPlaced above trees ↔ ∃ tree ∈ trees, place ∈ tree.placed above := by
  induction trees with
  | nil => simp [allPlaced]
  | cons first others ih => simp [allPlaced, ih]

/-- What is above a tree is above all its nodes. -/
theorem mem_above_of_mem_placed {tree outer : Node} {above : List Node}
    {place : List Node × Node} (isPlaced : place ∈ tree.placed above) (isAbove : outer ∈ above) :
    outer ∈ place.1 := by
  induction tree using Node.induction generalizing above with
  | step tree ih =>
      rw [placed_eq] at isPlaced
      rcases List.mem_cons.mp isPlaced with rfl | placedBelow
      · exact isAbove
      · obtain ⟨child, member, childPlaced⟩ := mem_allPlaced_iff.mp placedBelow
        exact ih child member childPlaced (List.mem_cons_of_mem _ isAbove)

/-- Nothing below a node that holds a text is topmost. -/
theorem filter_isTopmost_below {node : Node} (holds : holdsText node.role = true)
    (above trees : List Node) : (allPlaced (node :: above) trees).filter isTopmost = [] := by
  rw [List.filter_eq_nil_iff]
  intro place isPlaced topmost
  obtain ⟨tree, -, treePlaced⟩ := mem_allPlaced_iff.mp isPlaced
  have isAbove := mem_above_of_mem_placed treePlaced List.mem_cons_self
  rw [isTopmost, Bool.and_eq_true, List.all_eq_true] at topmost
  simpa [holds] using topmost.2 node isAbove

mutual

/-- Below nodes that hold no text, the text of a tree is that of its topmost nodes. -/
theorem plainText_eq_join :
    ∀ (tree : Node) {above : List Node}, (above.all fun outer => !holdsText outer.role) = true →
      tree.plainText =
        String.join ((((tree.placed above).filter isTopmost).map Prod.snd).map ownText)
  | ⟨role, tag, attributes, content, info, hidden, block, children⟩, above, silentAbove => by
      generalize nodeIs : Node.mk role tag attributes content info hidden block children = node
      have childrenAre : node.children = children := by rw [← nodeIs]
      rw [placed_eq]
      -- A node that holds a text covers everything below it, and any other one covers nothing.
      by_cases holds : holdsText node.role = true
      · have topmost : isTopmost (above, node) = true := by
          rw [isTopmost, holds, silentAbove]
          rfl
        rw [List.filter_cons_of_pos topmost, filter_isTopmost_below holds,
          plainText_of_holdsText holds]
        simp
      · have silent := Bool.eq_false_iff.mpr holds
        have notTopmost : ¬isTopmost (above, node) = true := by
          simp [isTopmost, silent]
        have silentAll : ((node :: above).all fun outer => !holdsText outer.role) = true := by
          rw [List.all_cons, silent, silentAbove]
          rfl
        rw [List.filter_cons_of_neg notTopmost, plainText_of_not_holdsText silent, childrenAre]
        exact plainTexts_eq_join children silentAll

theorem plainTexts_eq_join :
    ∀ (trees : List Node) {above : List Node},
      (above.all fun outer => !holdsText outer.role) = true →
        plainTexts trees =
          String.join ((((allPlaced above trees).filter isTopmost).map Prod.snd).map ownText)
  | [], _, _ => rfl
  | first :: others, above, silentAbove => by
      rw [plainTexts, allPlaced, List.filter_append, List.map_append, List.map_append,
        String.join_append, plainText_eq_join first silentAbove,
        plainTexts_eq_join others silentAbove]

end

/-- The alternative text of an image is the text of its label. -/
theorem plainTexts_eq_labelText (label : List Node) : plainTexts label = labelText label :=
  plainTexts_eq_join label rfl

/-! ## Markup in labels -/

/-- The roles of markup that a label may have around a run of nodes: emphasis, bold and
struck-through text, links and images. -/
def wrapperRoles : List Role :=
  [.other "em", .strong, .other "s", .link, .image]

/-- A run of nodes side by side, at any depth, is put into a node of markup. -/
inductive Wraps : List Node → List Node → Prop
  /-- The nodes themselves are put into markup, whatever its tag and attributes are. -/
  | run {wrapper : Node} (isWrapper : wrapper.role ∈ wrapperRoles) (before after : List Node) :
      Wraps (before ++ wrapper.children ++ after) (before ++ wrapper :: after)
  /-- Nodes below one of them are. -/
  | inside {node : Node} {children : List Node} (wraps : Wraps node.children children)
      (before after : List Node) :
      Wraps (before ++ node :: after) (before ++ { node with children := children } :: after)

theorem plainTexts_append (first second : List Node) :
    plainTexts (first ++ second) = plainTexts first ++ plainTexts second := by
  induction first with
  | nil => simp [plainTexts]
  | cons node nodes ih => rw [List.cons_append, plainTexts, plainTexts, ih, String.append_assoc]

/-- Markup holds no text itself. -/
theorem not_holdsText_of_mem_wrapperRoles {role : Role} (isWrapper : role ∈ wrapperRoles) :
    holdsText role = false := by
  have silent : ∀ role ∈ wrapperRoles, holdsText role = false := by decide
  exact silent role isWrapper

/-- A text does not change when a part of it is put into markup. -/
theorem Wraps.plainTexts_eq {bare wrapped : List Node} (wraps : Wraps bare wrapped) :
    plainTexts wrapped = plainTexts bare := by
  induction wraps with
  | run isWrapper before after =>
      have silent := not_holdsText_of_mem_wrapperRoles isWrapper
      rw [plainTexts_append, plainTexts_append, plainTexts_append, plainTexts,
        plainText_of_not_holdsText silent, String.append_assoc]
  | @inside node children wraps before after ih =>
      have same : ({ node with children := children } : Node).plainText = node.plainText := by
        by_cases holds : holdsText node.role = true
        · calc
            ({ node with children := children } : Node).plainText = node.ownText :=
              @plainText_of_holdsText { node with children := children } holds
            _ = node.plainText := (plainText_of_holdsText holds).symm
        · have silent := Bool.eq_false_iff.mpr holds
          calc
            ({ node with children := children } : Node).plainText = plainTexts children :=
              @plainText_of_not_holdsText { node with children := children } silent
            _ = plainTexts node.children := ih
            _ = node.plainText := (plainText_of_not_holdsText silent).symm
      rw [plainTexts_append, plainTexts_append, plainTexts, plainTexts, same]

/-- Nor when parts of it are put into markup and taken out of it. -/
theorem plainTexts_eq_of_eqvGen {label other : List Node}
    (rewrapped : Relation.EqvGen Wraps label other) : plainTexts label = plainTexts other := by
  induction rewrapped with
  | rel bare wrapped wraps => exact wraps.plainTexts_eq.symm
  | refl label => rfl
  | symm label other _ ih => exact ih.symm
  | trans label middle other _ _ ih ihOther => exact ih.trans ihOther

/-! ## Images -/

/-- The styled form of an image. -/
def styledImage (image : Node) : Styled :=
  .image (attributeShown image.attributes "src") (labelText image.children)
    (attributeText? image.attributes "title")

theorem styled?_image {image : Node} (isImage : image.role = .image) (inner : String) :
    image.styled? inner = some (.ok image.styledImage) := by
  unfold styled?
  rw [isImage, styledImage, ← plainTexts_eq_labelText]

/-- An image is given to its rule at once. -/
theorem render_image {image : Node} (isImage : image.role = .image) (table : RuleTable)
    (settings : Settings) :
    image.render table settings = table.render image.styledImage settings := by
  rw [render_eq, renderedChildren, if_pos isImage]
  change finish table settings image "" = _
  rw [finish, styled?_image isImage]

/-- So is it when rules may keep a state. -/
theorem walk_image {σ : Type} (rules : TextRules σ) {image : Node} (isImage : image.role = .image)
    (settings : Settings) : image.walk rules settings = visit rules settings image "" := by
  rw [walk_eq, renderedChildren, if_pos isImage]
  rfl

/-- The walk through an image is one call of its rule. -/
theorem run_walk_image {σ : Type} {rules : TextRules σ} {image : Node}
    (isImage : image.role = .image) {rule : Styled → Settings → StateM σ String}
    (hasRule : rules .image = some rule) (settings : Settings) (state : σ) :
    ∃ text last,
      (image.walk rules.noted settings).run.run ([], state) =
          (.ok text, [⟨image.styledImage, settings, text⟩], last) ∧
        (rule image.styledImage settings).run state = (text, last) := by
  have styles := styled?_image isImage ""
  have noFault : image.fault? rules.has = none := by
    simp [fault?, isImage, kindOf?, buildFault?, TextRules.has, hasRule]
  have ruled : image.isRuled = true := by
    rw [isRuled, isImage]
    rfl
  rcases visit_cases rules settings image "" [] state with
    ⟨unruled, -⟩ | ⟨error, fault, -⟩ | ⟨styled, text, last, -, -, styled?, noted, unnoted⟩
  · rw [ruled] at unruled
    contradiction
  · exact absurd (noFault.symm.trans fault) nofun
  · cases styles.symm.trans styled?
    refine ⟨text, last, ?_, ?_⟩
    · rw [walk_image rules.noted isImage]
      exact noted
    · have kind : image.styledImage.kind = .image := rfl
      simp only [visit, styles, kind, hasRule] at unnoted
      change (((rule image.styledImage settings).run state).map Except.ok id) = _ at unnoted
      obtain ⟨sameText, sameLast⟩ := Prod.ext_iff.mp unnoted
      exact Prod.ext (Except.ok.inj sameText) sameLast

/-- The built-in HTML of an image is one tag, in which a reader finds the text of the label. -/
theorem exists_read_image {image : Node} (isImage : image.role = .image) {table : RuleTable}
    (builtin : table.find? .image = some Styled.html) (settings : Settings) :
    ∃ html attributes, image.render table settings = .ok html ∧
      Html.read html = some [.single "img" attributes] ∧
      attributes.lookup "alt" = some (labelText image.children) := by
  have reads := reads_image (attributeShown image.attributes "src") (labelText image.children)
    (attributeText? image.attributes "title")
  refine ⟨_, _, ?_, reads.read_eq, rfl⟩
  have kind : image.styledImage.kind = .image := rfl
  rw [render_image isImage, RuleTable.render, kind, builtin]
  rfl

/-- An image shows its label as a text.  A reader of its built-in HTML finds what the topmost
texts, code and breaks of the label say.  Runs of the label that are put into emphasis, links or
other images, or taken out of them, change nothing.  The rule for images is needed, and
called, once; no other rule is. -/
theorem image_shows_label (image : Node) (isImage : image.role = .image) (settings : Settings) :
    (∀ table : RuleTable, table.find? .image = some Styled.html →
      ∃ html attributes, image.render table settings = .ok html ∧
        Html.read html = some [.single "img" attributes] ∧
        attributes.lookup "alt" = some (labelText image.children)) ∧
    (∀ (table : RuleTable) (label : List Node), Relation.EqvGen Wraps image.children label →
      ({ image with children := label } : Node).render table settings =
        image.render table settings) ∧
    ∀ {σ : Type} (rules : TextRules σ) (rule : Styled → Settings → StateM σ String),
      rules .image = some rule → ∀ state, ∃ text last,
        (image.walk rules.noted settings).run.run ([], state) =
            (.ok text, [⟨image.styledImage, settings, text⟩], last) ∧
          (rule image.styledImage settings).run state = (text, last) := by
  refine ⟨fun _ builtin => exists_read_image isImage builtin settings, ?_, ?_⟩
  · intro table label rewrapped
    have same : ({ image with children := label } : Node).styledImage = image.styledImage := by
      unfold styledImage
      rw [← plainTexts_eq_labelText, ← plainTexts_eq_labelText,
        plainTexts_eq_of_eqvGen rewrapped]
    rw [render_image isImage, @render_image { image with children := label } isImage, same]
  · intro σ rules rule hasRule state
    exact run_walk_image isImage hasRule settings state

/-- An image whose label is a quoted word, a link around another image, and code. -/
def portrait : Node where
  role := .image
  children :=
    [{ role := .text, content := "a \"cat\"" },
      { role := .softBreak },
      { role := .link
        children := [{ role := .image, children := [{ role := .text, content := "& " }] }] },
      { role := .inlineCode, content := "<b>" }]

/-- The label without the link. -/
def portraitUnlinked : List Node :=
  [{ role := .text, content := "a \"cat\"" },
    { role := .softBreak },
    { role := .image, children := [{ role := .text, content := "& " }] },
    { role := .inlineCode, content := "<b>" }]

/-- Rules that number the images, and none for anything else. -/
def numberingImages : TextRules Nat := fun kind =>
  if kind = .image then numbering kind else none

theorem image_shows_label_portrait :
    (∃ html attributes, portrait.render .builtin {} = .ok html ∧
      Html.read html = some [.single "img" attributes] ∧
      attributes.lookup "alt" = some "a \"cat\"\n& <b>") ∧
    ({ portrait with children := portraitUnlinked } : Node).render .builtin {} =
      portrait.render .builtin {} ∧
    ∃ text last, (portrait.walk numberingImages.noted {}).run.run ([], 0) =
      (.ok text, [⟨.image "" "a \"cat\"\n& <b>" none, {}, text⟩], last) := by
  obtain ⟨read, rewrapped, called⟩ := image_shows_label portrait rfl {}
  have text : labelText portrait.children = "a \"cat\"\n& <b>" := by decide +kernel
  rw [text] at read
  refine ⟨read .builtin rfl, rewrapped .builtin _ ?_, ?_⟩
  · let link : Node :=
      { role := .link
        children := [{ role := .image, children := [{ role := .text, content := "& " }] }] }
    have wraps := @Wraps.run link (by decide)
      [{ role := .text, content := "a \"cat\"" }, { role := .softBreak }]
      [{ role := .inlineCode, content := "<b>" }]
    exact .symm _ _ (.rel _ _ wraps)
  · obtain ⟨shown, last, walked, -⟩ := called numberingImages _ rfl 0
    rw [styledImage, text] at walked
    exact ⟨shown, last, walked⟩

end Typeset.Node
