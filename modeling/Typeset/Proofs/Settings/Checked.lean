import Typeset.Settings.Merge
import Typeset.Proofs.Basic
import Typeset.Proofs.Number.Range
import Typeset.Proofs.Number.Value
import Typeset.Proofs.Settings.Merge

/-!
# Checked settings

A snapshot is checked when every field passes the check that values pass before
they are stored.  All its lengths are finite then, and can be scaled and written.
-/

namespace Typeset

/-- Every field of a snapshot passes its check. -/
def Settings.Checked (settings : Settings) : Prop :=
  ∀ field : Field, field.check (field.get settings) = .ok ()

/-- It is enough to run the checks. -/
theorem Settings.checked_iff {settings : Settings} :
    settings.Checked ↔ ∀ field ∈ Field.all, (field.check (field.get settings)).isOk = true := by
  constructor
  · intro checked field _
    exact isOk_iff.mpr ⟨(), checked field⟩
  · intro succeed field
    obtain ⟨⟨⟩, checked⟩ := isOk_iff.mp (succeed field field.mem_all)
    exact checked

instance (settings : Settings) : Decidable settings.Checked :=
  decidable_of_iff _ Settings.checked_iff.symm

/-- A merge keeps settings checked. -/
theorem Settings.Checked.of_merge {base merged : Settings} (checked : base.Checked)
    {entries : Entries} (succeeded : base.merge entries = .ok merged) : merged.Checked := by
  intro field
  rcases get_of_merge succeeded field with kept | stored
  · rw [kept]
    exact checked field
  · exact stored

namespace Field

/-- A length that passes the check is finite. -/
theorem exists_value?_of_check {field : Field} (isLength : field.isLength = true)
    {number : Number} (checked : field.check (.number number) = .ok ()) :
    ∃ value, number.value? = some value := by
  cases number with
  | int n => exact ⟨n, rfl⟩
  | double x =>
      cases x with
      | finite x => exact ⟨x.value, rfl⟩
      | infinite negative => simp [check, isLength, Binary64.isFinite] at checked
      | nan => simp [check, isLength, Binary64.isFinite] at checked

/-- A length that passes the check has a double. -/
theorem exists_toBinary64?_of_check {field : Field} (isLength : field.isLength = true)
    {number : Number} (checked : field.check (.number number) = .ok ()) :
    ∃ x, number.toBinary64? = some x := by
  cases number with
  | double x => exact ⟨x, rfl⟩
  | int n =>
      cases found : (Number.int n).toBinary64? with
      | some x => exact ⟨x, rfl⟩
      | none => simp [check, isLength, found] at checked

/-- A length that passes the check can be written. -/
theorem isWritable_of_check {field : Field} (isLength : field.isLength = true)
    {number : Number} (checked : field.check (.number number) = .ok ()) :
    number.isWritable = true := by
  obtain ⟨x, found⟩ := exists_toBinary64?_of_check isLength checked
  exact Number.isWritable_of_toBinary64? found

end Field

end Typeset
