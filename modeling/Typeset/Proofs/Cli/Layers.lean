import Typeset.Cli.Program
import Typeset.Proofs.Settings.Checked
import Typeset.Proofs.Settings.Load

/-!
# Layers of settings

The settings of a run come from three layers over the defaults: the members of a
settings file, the accent colour of a preset and the values of options.  Every field
has the value of the last layer that sets it, and the result is checked and lies in
the ranges.
-/

namespace Typeset

namespace Settings

variable {settings : Settings}

/-- Settings in the ranges, by the exact values of their lengths. -/
structure InRange (settings : Settings) : Prop where
  size : ∃ size, settings.fontSize.value? = some size ∧ 12 ≤ size ∧ size ≤ 20
  marginTop : ∃ margin, settings.codeMarginTop.value? = some margin ∧ 0 ≤ margin ∧ margin ≤ 50
  marginBottom :
    ∃ margin, settings.codeMarginBottom.value? = some margin ∧ 0 ≤ margin ∧ margin ≤ 50

theorem checkRangesIn_eq_ok_iff {ranges : List (Field × Int × Int)} {done : Unit} :
    settings.checkRangesIn ranges = .ok done ↔
      ∀ range ∈ ranges, ∀ value, settings.length? range.1 = some value →
        value.within range.2.1 range.2.2 = true := by
  induction ranges with
  | nil => simp [checkRangesIn]
  | cons range ranges ih =>
      rcases range with ⟨field, low, high⟩
      rw [checkRangesIn, List.forall_mem_cons, ← ih]
      cases found : settings.length? field with
      | none => simp
      | some value => by_cases inside : value.within low high = true <;> simp [inside]

theorem inRange_of_checkRanges {done : Unit} (checked : settings.checkRanges = .ok done) :
    settings.InRange := by
  have inside := checkRangesIn_eq_ok_iff.mp checked
  simp only [ranges, List.forall_mem_cons] at inside
  obtain ⟨size, marginTop, marginBottom, -⟩ := inside
  exact
    { size := Number.within_iff.mp (size settings.fontSize rfl)
      marginTop := Number.within_iff.mp (marginTop settings.codeMarginTop rfl)
      marginBottom := Number.within_iff.mp (marginBottom settings.codeMarginBottom rfl) }

end Settings

namespace Cli

variable {folder : Folder} {arguments : Arguments} {settings : Settings}

/-- The members of the settings file that is named, if one is. -/
def HasMembers (folder : Folder) (arguments : Arguments) (members : Entries) : Prop :=
  match given? arguments.settings with
  | none => members = []
  | some name =>
      ∃ bytes text, folder.read (FilePath.ofString name) = .ok bytes ∧
        Settings.decodeText bytes = .ok text ∧ Json.parse text = .ok (.object members)

/-- The colour that a preset gives to a field. -/
def accent? (preset : Option Preset) : Field → Option Value
  | .headingColor | .boldColor => preset.map fun preset => .text preset.primary
  | _ => none

/-- The value that the last layer which sets a field gives to it. -/
def layered (arguments : Arguments) (members : Entries) (field : Field) : Value :=
  (arguments.field? field).getD
    ((accent? arguments.preset field).getD
      (((members.map Entries.named).lookup field.name).getD (field.get {})))

/-! ## Single layers -/

theorem fileSettings_eq_ok_iff {name : String} :
    fileSettings folder name = .ok settings ↔
      ∃ bytes text members, folder.read (FilePath.ofString name) = .ok bytes ∧
        Settings.decodeText bytes = .ok text ∧ Json.parse text = .ok (.object members) ∧
        Settings.merge {} members = .ok settings := by
  simp only [fileSettings, bind_eq_ok_iff, mapError_eq_ok_iff, Settings.load_eq_ok_iff,
    Settings.HoldsObject]
  constructor
  · rintro ⟨bytes, read, members, ⟨text, decoded, parsed⟩, merged⟩
    exact ⟨bytes, text, members, read, decoded, parsed, merged⟩
  · rintro ⟨bytes, text, members, read, decoded, parsed, merged⟩
    exact ⟨bytes, read, members, ⟨text, decoded, parsed⟩, merged⟩

theorem named_name (field : Field) (value : Value) :
    Entries.named (field.name, value) = (field.name, value) := by
  rw [Entries.named, Entries.resolveKey_name]

/-- Among the values of options that are merged, a field finds its own. -/
theorem lookup_overrides (field : Field) :
    (arguments.overrides.map Entries.named).lookup field.name = arguments.field? field := by
  have found : ∀ fields : List Field,
      ((fields.filterMap fun field =>
        (arguments.field? field).map fun value => (field.name, value)).map Entries.named).lookup
          field.name = if field ∈ fields then arguments.field? field else none := by
    intro fields
    induction fields with
    | nil => rfl
    | cons first others ih =>
        by_cases equal : field = first
        · subst equal
          cases given : arguments.field? field with
          | none =>
              rw [given] at ih
              simpa [given] using ih
          | some value => simp [given, named_name]
        · have different : (field.name == first.name) = false :=
            beq_false_of_ne fun same => equal (Field.name_injective same)
          cases given : arguments.field? first with
          | none => simpa [given, equal] using ih
          | some value =>
              simpa [given, equal, named_name, List.lookup_cons, different] using ih
  rw [Arguments.overrides, found, if_pos field.mem_all]

/-- The settings under the accent colour: those of the file, or the defaults. -/
def Based (folder : Folder) (arguments : Arguments) (base : Settings) : Prop :=
  ∃ members, HasMembers folder arguments members ∧ Settings.merge {} members = .ok base

theorem based_iff_of_none (given : given? arguments.settings = none) {base : Settings} :
    Based folder arguments base ↔ base = {} := by
  have merged : Settings.merge {} [] = .ok {} := rfl
  simp [Based, HasMembers, given, merged, eq_comm]

theorem based_iff_of_some {name : String} (given : given? arguments.settings = some name)
    {base : Settings} : Based folder arguments base ↔ fileSettings folder name = .ok base := by
  simp only [Based, HasMembers, given, fileSettings_eq_ok_iff]
  constructor
  · rintro ⟨members, ⟨bytes, text, read, decoded, parsed⟩, merged⟩
    exact ⟨bytes, text, members, read, decoded, parsed, merged⟩
  · rintro ⟨bytes, text, members, read, decoded, parsed, merged⟩
    exact ⟨members, ⟨bytes, text, read, decoded, parsed⟩, merged⟩

/-- The settings under the options: an accent colour is applied if there is a preset. -/
def Accents (preset : Option Preset) (base accented : Settings) : Prop :=
  match preset with
  | some preset => base.applyAccent (.text preset.primary) = .ok accented
  | none => base = accented

/-- A preset changes the two fields that have its colour. -/
theorem Accents.get_eq {preset : Option Preset} {base accented : Settings}
    (accents : Accents preset base accented) (field : Field) :
    field.get accented = (accent? preset field).getD (field.get base) := by
  cases preset with
  | none =>
      cases accents
      cases field <;> rfl
  | some preset =>
      have merged : base.merge
          [("heading_color", .text preset.primary), ("bold_color", .text preset.primary)] =
            .ok accented := accents
      rw [Settings.get_eq_of_merge merged]
      cases field <;> rfl

theorem Accents.checked {preset : Option Preset} {base accented : Settings}
    (accents : Accents preset base accented) (checked : base.Checked) : accented.Checked := by
  cases preset with
  | none =>
      cases accents
      exact checked
  | some preset => exact checked.of_merge accents

/-! ## All layers -/

/-- The layers are put on each other from the file to the options. -/
theorem layeredSettings_eq_ok_iff :
    layeredSettings folder arguments = .ok settings ↔
      ∃ base accented, Based folder arguments base ∧ Accents arguments.preset base accented ∧
        accented.merge arguments.overrides = .ok settings ∧ settings.checkRanges = .ok () := by
  have done : (∃ done, settings.checkRanges = .ok done) ↔ settings.checkRanges = .ok () :=
    ⟨fun ⟨(), checked⟩ => checked, fun checked => ⟨(), checked⟩⟩
  unfold layeredSettings
  cases given : given? arguments.settings with
  | none =>
      simp only [based_iff_of_none given]
      cases arguments.preset <;>
        simp [bind_eq_ok_iff, mapError_eq_ok_iff, Accents, pure, Except.pure, done]
  | some name =>
      simp only [based_iff_of_some given]
      cases arguments.preset <;>
        simp [bind_eq_ok_iff, mapError_eq_ok_iff, Accents, pure, Except.pure, done]

/-- What the last layer that gives a field gives is in the settings. -/
theorem get_eq_layered {members : Entries} {base accented : Settings}
    (merged : Settings.merge {} members = .ok base)
    (accents : Accents arguments.preset base accented)
    (overridden : accented.merge arguments.overrides = .ok settings) (field : Field) :
    field.get settings = layered arguments members field := by
  rw [Settings.get_eq_of_merge overridden, lookup_overrides, accents.get_eq,
    Settings.get_eq_of_merge merged, layered]

/-- What is known of the settings of a run. -/
theorem of_layeredSettings (succeeded : layeredSettings folder arguments = .ok settings) :
    (∃ members, HasMembers folder arguments members ∧
      ∀ field, field.get settings = layered arguments members field) ∧
    settings.Checked ∧ settings.InRange := by
  obtain ⟨base, accented, ⟨members, hasMembers, merged⟩, accents, overridden, inRange⟩ :=
    layeredSettings_eq_ok_iff.mp succeeded
  have defaults : Settings.Checked {} := by decide +kernel
  have checked := (accents.checked (defaults.of_merge merged)).of_merge overridden
  exact ⟨⟨members, hasMembers, get_eq_layered merged accents overridden⟩, checked,
    Settings.inRange_of_checkRanges inRange⟩

end Cli

end Typeset
