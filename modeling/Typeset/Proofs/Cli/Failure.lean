import Typeset.Proofs.Cli.Arguments
import Typeset.Proofs.Cli.Layers

/-!
# Settings that are refused

The settings of a run are refused with their file, with a merge or with a range.  One refusal
is not handled: that of a file's member, an integer that overflows a double.  The values of
options and of presets are no integers, so the later layers are never refused for that.
-/

namespace Typeset.Cli

variable {folder : Folder} {arguments : Arguments} {settings : Settings}

/-! ## The settings file -/

/-- The members of the settings file are refused for an integer that overflows a double. -/
def Overflows (folder : Folder) (arguments : Arguments) : Prop :=
  ∃ members, HasMembers folder arguments members ∧ members.Refused .tooLarge

theorem HasMembers.unique {members others : Entries} (has : HasMembers folder arguments members)
    (hasOthers : HasMembers folder arguments others) : members = others := by
  unfold HasMembers at has hasOthers
  cases named : given? arguments.settings with
  | none =>
      rw [named] at has hasOthers
      exact has.trans hasOthers.symm
  | some name =>
      rw [named] at has hasOthers
      obtain ⟨bytes, chars, read, decoded, parsed⟩ := has
      obtain ⟨otherBytes, otherChars, otherRead, otherDecoded, otherParsed⟩ := hasOthers
      cases read.symm.trans otherRead
      cases decoded.symm.trans otherDecoded
      cases parsed.symm.trans otherParsed
      rfl

/-- Members that were merged are not refused. -/
theorem Based.not_overflows {base : Settings} (based : Based folder arguments base) :
    ¬Overflows folder arguments := by
  rintro ⟨others, hasOthers, refused⟩
  obtain ⟨members, has, merged⟩ := based
  cases has.unique hasOthers
  cases merged.symm.trans (Settings.merge_eq_error_iff.mpr refused)

theorem fileSettings_eq_refused_iff {name other : String} {error : SettingsError} :
    fileSettings folder name = .error (.load (.refused other error)) ↔
      other = (FilePath.ofString name).text ∧ ∃ bytes chars members,
        folder.read (FilePath.ofString name) = .ok bytes ∧
        Settings.decodeText bytes = .ok chars ∧ Json.parse chars = .ok (.object members) ∧
        Entries.Refused members error := by
  have refused : ∀ bytes, (∃ fault, Settings.load (FilePath.ofString name).text bytes {} =
      .error fault ∧ Failure.load fault = .load (.refused other error)) ↔
        Settings.load (FilePath.ofString name).text bytes {} = .error (.refused other error) := by
    simp
  simp only [fileSettings, bind_eq_error_iff, mapError_eq_error_iff, mapError_eq_ok_iff, refused,
    Settings.load_eq_refused_iff, Settings.HoldsObject]
  constructor
  · rintro (⟨fault, -, impossible⟩ | ⟨bytes, read, same, members, holds, refused⟩)
    · cases impossible
    · obtain ⟨chars, decoded, parsed⟩ := holds
      exact ⟨same, bytes, chars, members, read, decoded, parsed, refused⟩
  · rintro ⟨same, bytes, chars, members, read, decoded, parsed, refused⟩
    exact .inr ⟨bytes, read, same, members, ⟨chars, decoded, parsed⟩, refused⟩

theorem fileSettings_ne_settings {name : String} {error : SettingsError} :
    fileSettings folder name ≠ .error (.settings error) := by
  simp [fileSettings, bind_eq_error_iff, mapError_eq_error_iff]

theorem Failure.isCrash_iff {failure : Failure} :
    failure.isCrash = true ↔
      (∃ name, failure = .load (.refused name .tooLarge)) ∨ failure = .settings .tooLarge := by
  unfold isCrash
  split
  · simp
  · simp
  · rename_i notLoad notSettings
    simp only [Bool.false_eq_true, false_iff, not_or, not_exists]
    exact ⟨notLoad, notSettings⟩

/-- A settings file that cannot be used is not handled when its members are refused for an
integer that is too large. -/
theorem isCrash_iff_of_fileSettings {name : String} (named : given? arguments.settings = some name)
    {failure : Failure} (failed : fileSettings folder name = .error failure) :
    failure.isCrash = true ↔ Overflows folder arguments := by
  have file : Overflows folder arguments ↔ ∃ bytes chars members,
      folder.read (FilePath.ofString name) = .ok bytes ∧ Settings.decodeText bytes = .ok chars ∧
        Json.parse chars = .ok (.object members) ∧ Entries.Refused members .tooLarge := by
    simp only [Overflows, HasMembers, named]
    constructor
    · rintro ⟨members, ⟨bytes, chars, read, decoded, parsed⟩, refused⟩
      exact ⟨bytes, chars, members, read, decoded, parsed, refused⟩
    · rintro ⟨bytes, chars, members, read, decoded, parsed, refused⟩
      exact ⟨members, ⟨bytes, chars, read, decoded, parsed⟩, refused⟩
  rw [Failure.isCrash_iff, file]
  constructor
  · rintro (⟨other, rfl⟩ | rfl)
    · exact (fileSettings_eq_refused_iff.mp failed).2
    · exact absurd failed fileSettings_ne_settings
  · intro refused
    cases failed.symm.trans (fileSettings_eq_refused_iff.mpr ⟨rfl, refused⟩)
    exact .inl ⟨_, rfl⟩

/-! ## The other layers -/

/-- A merge is not refused for the size of an integer if there is none. -/
theorem isCrash_of_merge {base : Settings} {entries : Entries} (free : entries.FreeOfIntegers)
    {failure : Failure} (failed : (base.merge entries).mapError .settings = .error failure) :
    failure.isCrash = false := by
  obtain ⟨error, refused, rfl⟩ := mapError_eq_error_iff.mp failed
  rw [← Bool.not_eq_true, Failure.isCrash_iff]
  rintro (⟨name, impossible⟩ | equal)
  · cases impossible
  · cases equal
    exact free.not_refused (Settings.merge_eq_error_iff.mp refused)

theorem isCrash_of_checkRanges {ranges : List (Field × Int × Int)} {failure : Failure}
    (failed : (settings.checkRangesIn ranges).mapError .settings = .error failure) :
    failure.isCrash = false := by
  induction ranges with
  | nil => cases failed
  | cons range ranges ih =>
      rcases range with ⟨field, low, high⟩
      unfold Settings.checkRangesIn at failed
      split at failed
      · split at failed
        · exact ih failed
        · cases failed
          rfl
      · exact ih failed

/-! ## All layers -/

/-- The layer of the settings file. -/
def baseSettings (folder : Folder) (arguments : Arguments) : Except Failure Settings :=
  match given? arguments.settings with
  | some name => fileSettings folder name
  | none => .ok {}

/-- The layer of the preset. -/
def accentedSettings (preset : Option Preset) (base : Settings) : Except Failure Settings :=
  match preset with
  | some preset => (base.applyAccent (.text preset.primary)).mapError .settings
  | none => .ok base

theorem layeredSettings_eq (folder : Folder) (arguments : Arguments) :
    layeredSettings folder arguments = do
      let base ← baseSettings folder arguments
      let accented ← accentedSettings arguments.preset base
      let settings ← (accented.merge arguments.overrides).mapError Failure.settings
      settings.checkRanges.mapError Failure.settings
      return settings := by
  unfold layeredSettings baseSettings accentedSettings
  cases given? arguments.settings <;> cases arguments.preset <;> rfl

theorem based_of_baseSettings {base : Settings}
    (succeeded : baseSettings folder arguments = .ok base) : Based folder arguments base := by
  unfold baseSettings at succeeded
  split at succeeded
  · rename_i name named
    exact (based_iff_of_some named).mpr succeeded
  · rename_i unnamed
    cases succeeded
    exact (based_iff_of_none unnamed).mpr rfl

theorem isCrash_of_accentedSettings {preset : Option Preset} {base : Settings}
    {failure : Failure} (failed : accentedSettings preset base = .error failure) :
    failure.isCrash = false := by
  cases preset with
  | none => cases failed
  | some preset =>
      have merged : (base.merge [("heading_color", .text preset.primary),
          ("bold_color", .text preset.primary)]).mapError Failure.settings = .error failure :=
        failed
      refine isCrash_of_merge ?_ merged
      intro key n listed
      simp at listed

/-- Once the file is loaded, the settings of a run are not refused for the size of an integer. -/
theorem layeredSettings_eq_error (valued : arguments.Valued) {failure : Failure}
    (failed : layeredSettings folder arguments = .error failure) :
    (∃ name, given? arguments.settings = some name ∧
      fileSettings folder name = .error failure) ∨
    (∃ base, Based folder arguments base) ∧ failure.isCrash = false := by
  rw [layeredSettings_eq] at failed
  rcases bind_eq_error_iff.mp failed with unloaded | ⟨base, loaded, failed⟩
  · unfold baseSettings at unloaded
    split at unloaded
    · rename_i name named
      exact .inl ⟨name, named, unloaded⟩
    · cases unloaded
  · refine .inr ⟨⟨base, based_of_baseSettings loaded⟩, ?_⟩
    rcases bind_eq_error_iff.mp failed with unaccented | ⟨accented, -, failed⟩
    · exact isCrash_of_accentedSettings unaccented
    · rcases bind_eq_error_iff.mp failed with unmerged | ⟨merged, -, failed⟩
      · exact isCrash_of_merge valued.freeOfIntegers unmerged
      · rcases bind_eq_error_iff.mp failed with outside | ⟨done, -, impossible⟩
        · exact isCrash_of_checkRanges outside
        · cases impossible

/-- Which refusals of settings are not handled. -/
theorem isCrash_iff_of_layeredSettings (valued : arguments.Valued) {failure : Failure}
    (failed : layeredSettings folder arguments = .error failure) :
    failure.isCrash = true ↔ Overflows folder arguments := by
  rcases layeredSettings_eq_error valued failed with
    ⟨name, named, unloaded⟩ | ⟨⟨base, based⟩, handled⟩
  · exact isCrash_iff_of_fileSettings named unloaded
  · rw [handled]
    exact iff_of_false Bool.false_ne_true based.not_overflows

end Typeset.Cli
