import Typeset.Stylesheet
import Typeset.Styled.Html
import Typeset.Proofs.Settings.Checked
import Typeset.Proofs.Settings.Merge

/-!
# Settings that can be rendered

Both outputs write the lengths of the settings and scale the font size.  This
succeeds for the same settings in both, whatever is rendered, and for all
settings that are checked.
-/

namespace Typeset

/-- The font size can be scaled, and all lengths can be written. -/
structure Settings.Renderable (settings : Settings) : Prop where
  size : ∃ size, settings.fontSize.toBinary64? = some size
  lineHeight : settings.lineHeight.isWritable = true
  marginTop : settings.codeMarginTop.isWritable = true
  marginBottom : settings.codeMarginBottom.isWritable = true

/-- Checked settings can be rendered. -/
theorem Settings.Checked.renderable {settings : Settings} (checked : settings.Checked) :
    settings.Renderable where
  size := Field.exists_toBinary64?_of_check rfl (checked .fontSize)
  lineHeight := Field.isWritable_of_check rfl (checked .lineHeight)
  marginTop := Field.isWritable_of_check rfl (checked .codeMarginTop)
  marginBottom := Field.isWritable_of_check rfl (checked .codeMarginBottom)

/-- A merge keeps settings that can be rendered so: what it stores is checked. -/
theorem Settings.Renderable.of_merge {base merged : Settings} (renderable : base.Renderable)
    {entries : Entries} (succeeded : base.merge entries = .ok merged) : merged.Renderable := by
  have writable : ∀ (field : Field) {old new : Number}, field.isLength = true →
      field.get base = .number old → field.get merged = .number new →
        old.isWritable = true → new.isWritable = true := by
    intro field old new isLength before after oldWritable
    rcases get_of_merge succeeded field with kept | checked
    · rw [before, after] at kept
      cases kept
      exact oldWritable
    · rw [after] at checked
      exact Field.isWritable_of_check isLength checked
  refine ⟨?_, writable .lineHeight rfl rfl rfl renderable.lineHeight,
    writable .codeMarginTop rfl rfl rfl renderable.marginTop,
    writable .codeMarginBottom rfl rfl rfl renderable.marginBottom⟩
  rcases get_of_merge succeeded .fontSize with kept | checked
  · have same : merged.fontSize = base.fontSize := by simpa [Field.get] using kept
    rw [same]
    exact renderable.size
  · exact Field.exists_toBinary64?_of_check rfl checked

namespace Style

variable {settings : Settings}

theorem requireWritable_eq_ok_iff {numbers : List Number} {done : Unit} :
    requireWritable numbers = .ok done ↔ ∀ number ∈ numbers, number.isWritable = true := by
  unfold requireWritable
  split
  · rename_i all
    simpa using List.all_eq_true.mp all
  · rename_i notAll
    simpa using notAll

theorem exists_scaledSize_eq_ok_iff {scale : Binary64} :
    (∃ text, scaledSize settings scale = .ok text) ↔
      ∃ size, settings.fontSize.toBinary64? = some size := by
  unfold scaledSize
  cases settings.fontSize.toBinary64? <;> simp

end Style

open Style

theorem Settings.Renderable.writable_paragraphNumbers {settings : Settings}
    (renderable : settings.Renderable) : requireWritable (paragraphNumbers settings) = .ok () := by
  obtain ⟨size, found⟩ := renderable.size
  apply requireWritable_eq_ok_iff.mpr
  simp [paragraphNumbers, Number.isWritable_of_toBinary64? found, renderable.lineHeight]

theorem Settings.Renderable.writable_codeBlockNumbers {settings : Settings}
    (renderable : settings.Renderable) : requireWritable (codeBlockNumbers settings) = .ok () := by
  apply requireWritable_eq_ok_iff.mpr
  simp [codeBlockNumbers, renderable.marginTop, renderable.marginBottom]

/-- A style sheet is the text of its blocks with the sizes of the snapshot. -/
theorem Stylesheet.exists_sizes_of_ofSettings {settings : Settings} {css : String}
    (styled : ofSettings settings = .ok css) :
    ∃ size1 size2 size3 size, headingSize 1 settings = .ok size1 ∧
      headingSize 2 settings = .ok size2 ∧ headingSize 3 settings = .ok size3 ∧
      quoteSize settings = .ok size ∧ css = text (blocks settings size1 size2 size3 size) := by
  obtain ⟨written, found, rfl⟩ := map_eq_ok_iff.mp styled
  simp only [blocksOf, bind_eq_ok_iff] at found
  obtain ⟨_, -, size1, sized1, size2, sized2, size3, sized3, size, sized, _, -, equal⟩ := found
  cases equal
  exact ⟨size1, size2, size3, size, sized1, sized2, sized3, sized, rfl⟩

/-- The style sheet of a snapshot exists exactly when the snapshot can be rendered. -/
theorem Stylesheet.exists_ofSettings_eq_ok_iff {settings : Settings} :
    (∃ css, ofSettings settings = .ok css) ↔ settings.Renderable := by
  simp only [ofSettings, map_eq_ok_iff, blocksOf, bind_eq_ok_iff]
  constructor
  · rintro ⟨css, blocks, ⟨_, body, size, sized, _, -, _, -, _, -, _, code, -⟩, -⟩
    have bodyWritable := requireWritable_eq_ok_iff.mp body
    have codeWritable := requireWritable_eq_ok_iff.mp code
    simp only [paragraphNumbers, codeBlockNumbers, List.forall_mem_cons]
      at bodyWritable codeWritable
    exact
      { size := exists_scaledSize_eq_ok_iff.mp ⟨size, sized⟩
        lineHeight := bodyWritable.2.1
        marginTop := codeWritable.1
        marginBottom := codeWritable.2.1 }
  · intro renderable
    have sizes : ∀ scale, ∃ text, scaledSize settings scale = .ok text := fun _ =>
      exists_scaledSize_eq_ok_iff.mpr renderable.size
    obtain ⟨size1, sized1⟩ := sizes (headingScale 1)
    obtain ⟨size2, sized2⟩ := sizes (headingScale 2)
    obtain ⟨size3, sized3⟩ := sizes (headingScale 3)
    obtain ⟨quote, quoted⟩ := sizes quoteScale
    exact ⟨_, _, ⟨(), renderable.writable_paragraphNumbers, size1, sized1, size2, sized2, size3,
      sized3, quote, quoted, (), renderable.writable_codeBlockNumbers, rfl⟩, rfl⟩

namespace Styled

/-- The integers that the rule of a node writes. -/
def integers : Styled → List Int
  | heading level _ => [level]
  | list _ _ start => [start]
  | _ => []

/-- Every built-in rule succeeds unless an integer of the node has too many digits. -/
theorem exists_html_eq_ok {settings : Settings} (renderable : settings.Renderable) {node : Styled}
    (writable : ∀ n ∈ node.integers, (Number.int n).isWritable = true) :
    ∃ html, node.html settings = .ok html := by
  cases node with
  | heading level content =>
      obtain ⟨size, sized⟩ := exists_scaledSize_eq_ok_iff.mpr renderable.size
      have written : requireWritable [.int level] = .ok () := by
        apply requireWritable_eq_ok_iff.mpr
        simpa using writable level List.mem_cons_self
      exact ⟨_, bind_eq_ok_iff.mpr ⟨size, sized, bind_eq_ok_iff.mpr ⟨(), written, rfl⟩⟩⟩
  | paragraph content hidden =>
      cases hidden with
      | true => exact ⟨content, rfl⟩
      | false => exact ⟨_, bind_eq_ok_iff.mpr ⟨(), renderable.writable_paragraphNumbers, rfl⟩⟩
  | blockquote content =>
      obtain ⟨size, sized⟩ := exists_scaledSize_eq_ok_iff.mpr renderable.size
      exact ⟨_, bind_eq_ok_iff.mpr ⟨size, sized, rfl⟩⟩
  | codeBlock code language =>
      exact ⟨_, bind_eq_ok_iff.mpr ⟨(), renderable.writable_codeBlockNumbers, rfl⟩⟩
  | list ordered items start =>
      obtain ⟨size, found⟩ := renderable.size
      have written : requireWritable (settings.fontSize ::
          if ordered && start ≠ 1 then [.int start] else []) = .ok () := by
        apply requireWritable_eq_ok_iff.mpr
        have sizeWritable := Number.isWritable_of_toBinary64? found
        have startWritable := writable start List.mem_cons_self
        split <;> simp [sizeWritable, startWritable]
      exact ⟨_, bind_eq_ok_iff.mpr ⟨(), written, rfl⟩⟩
  | _ => exact ⟨_, rfl⟩

end Styled

end Typeset
