import Typeset.Proofs.Cli.Crash
import Typeset.Proofs.Cli.Failure

/-!
# The two range checks

Ranges are checked twice: the values of options as they are given, and the snapshot that all
layers make.  Main statement: after the first check the second one fails only for what the
settings file gives to a field that no option sets, and on a snapshot that holds the values of
the options the two checks refuse the same field.
-/

namespace Typeset

/-- The exact value of a number lies in a range. -/
def Number.LiesIn (number : Number) (range : Field × Int × Int) : Prop :=
  ∃ value, number.value? = some value ∧ (range.2.1 : Rat) ≤ value ∧ value ≤ range.2.2

/-! ## The check of a snapshot -/

namespace Settings

variable {settings : Settings} {range : Field × Int × Int} {ranges : List (Field × Int × Int)}
  {error : SettingsError}

/-- What a snapshot holds in a ranged field lies in the range. -/
def Keeps (settings : Settings) (range : Field × Int × Int) : Prop :=
  ∀ number, settings.length? range.1 = some number → number.LiesIn range

/-- What a snapshot holds in a ranged field, when it lies out of the range. -/
def Exceeds (settings : Settings) (range : Field × Int × Int) (number : Number) : Prop :=
  settings.length? range.1 = some number ∧ ¬number.LiesIn range

/-- A snapshot is refused for the first length that lies out of its range. -/
theorem checkRangesIn_eq_error_iff :
    settings.checkRangesIn ranges = .error error ↔
      ∃ before range after, ranges = before ++ range :: after ∧
        (∀ earlier ∈ before, settings.Keeps earlier) ∧
        ∃ number, settings.Exceeds range number ∧
          error = .outOfRange range.1 range.2.1 range.2.2 number := by
  induction ranges with
  | nil => simp [checkRangesIn]
  | cons range ranges ih =>
      rcases range with ⟨field, low, high⟩
      rw [exists_first_cons_iff, ← ih, checkRangesIn]
      cases found : settings.length? field with
      | none => simp [Keeps, Exceeds, found]
      | some number =>
          have inside : number.within low high = true ↔ number.LiesIn (field, low, high) :=
            Number.within_iff
          by_cases lies : number.LiesIn (field, low, high)
          · simp [Keeps, Exceeds, found, inside.mpr lies, lies]
          · simp [Keeps, Exceeds, found, inside, lies, eq_comm]

theorem exists_checkRangesIn_eq_error_iff :
    (∃ error, settings.checkRangesIn ranges = .error error) ↔
      ∃ range ∈ ranges, ∃ number, settings.Exceeds range number := by
  constructor
  · rintro ⟨error, refused⟩
    obtain ⟨before, range, after, rfl, -, number, exceeds, -⟩ :=
      checkRangesIn_eq_error_iff.mp refused
    exact ⟨range, by simp, number, exceeds⟩
  · rintro ⟨range, member, number, found, outside⟩
    cases checked : settings.checkRangesIn ranges with
    | error error => exact ⟨error, rfl⟩
    | ok done =>
        have inside := checkRangesIn_eq_ok_iff.mp checked range member number found
        exact absurd (Number.within_iff.mp inside) outside

theorem length?_eq_some_iff {field : Field} {number : Number} :
    settings.length? field = some number ↔ field.get settings = .number number := by
  unfold length?
  split
  · rename_i value found
    rw [found, Option.some.injEq, Value.number.injEq]
  · rename_i noNumber
    simpa using noNumber number

/-- The defaults lie in their ranges. -/
theorem keeps_default (ranged : range ∈ Settings.ranges) : Settings.Keeps {} range := by
  intro number found
  have inside : ∀ range ∈ Settings.ranges,
      ((({} : Settings).length? range.1).all fun number =>
        number.within range.2.1 range.2.2) = true := by decide
  have within := inside range ranged
  rw [found] at within
  exact Number.within_iff.mp within

end Settings

namespace Cli

variable {folder : Folder} {arguments : Arguments} {settings : Settings}
  {range : Field × Int × Int} {ranges : List (Field × Int × Int)} {number : Number}

/-! ## The check of options -/

theorem within_of_checkOptionRanges (passed : checkOptionRanges arguments ranges = .ok ()) :
    ∀ range ∈ ranges, arguments.Within range := by
  induction ranges with
  | nil => exact nofun
  | cons range ranges ih =>
      rcases range with ⟨field, low, high⟩
      unfold checkOptionRanges at passed
      split at passed
      · rename_i none
        refine List.forall_mem_cons.mpr ⟨?_, ih passed⟩
        intro value given
        rw [none] at given
        contradiction
      · rename_i number given
        split at passed
        · rename_i inside
          refine List.forall_mem_cons.mpr ⟨?_, ih passed⟩
          intro value again
          rw [given] at again
          exact ⟨number, (Option.some.inj again).symm, inside⟩
        · contradiction
      · contradiction

/-- A snapshot holds the number that an option gives to a ranged field; without the option the
field lies in its range. -/
structure Holds (arguments : Arguments) (settings : Settings) (range : Field × Int × Int) :
    Prop where
  given : ∀ value, arguments.field? range.1 = some value →
    ∃ number, value = .number number ∧ settings.length? range.1 = some number
  kept : arguments.field? range.1 = none → settings.Keeps range

/-- The two checks answer alike: both pass, or both refuse the same field. -/
inductive AnswerAlike : Except RangeFault Unit → Except SettingsError Unit → Prop where
  | passed : AnswerAlike (.ok ()) (.ok ())
  | refused (field : Field) (low high : Int) (number : Number) :
      AnswerAlike (.error (.usage (.outOfRange field low high)))
        (.error (.outOfRange field low high number))

theorem answerAlike_checks (holds : ∀ range ∈ ranges, Holds arguments settings range) :
    AnswerAlike (checkOptionRanges arguments ranges) (settings.checkRangesIn ranges) := by
  induction ranges with
  | nil => exact .passed
  | cons range ranges ih =>
      rcases range with ⟨field, low, high⟩
      obtain ⟨first, others⟩ := List.forall_mem_cons.mp holds
      unfold checkOptionRanges Settings.checkRangesIn
      cases given : arguments.field? field with
      | none =>
          dsimp only
          split
          · rename_i number found
            rw [if_pos (Number.within_iff.mpr (first.kept given number found))]
            exact ih others
          · exact ih others
      | some value =>
          obtain ⟨number, rfl, found⟩ := first.given value given
          simp only [found]
          split
          · exact ih others
          · exact .refused field low high number

/-! ## Merged layers -/

/-- The settings that all layers make, before their ranges are checked. -/
def mergedSettings (folder : Folder) (arguments : Arguments) : Except Failure Settings := do
  let base ← baseSettings folder arguments
  let accented ← accentedSettings arguments.preset base
  (accented.merge arguments.overrides).mapError Failure.settings

theorem layeredSettings_eq_checked (folder : Folder) (arguments : Arguments) :
    layeredSettings folder arguments = do
      let settings ← mergedSettings folder arguments
      settings.checkRanges.mapError Failure.settings
      return settings := by
  simp only [layeredSettings_eq, mergedSettings, bind_assoc]

/-- The settings file gives a value to a field, under one of the field's names. -/
def FileGives (folder : Folder) (arguments : Arguments) (field : Field) (value : Value) : Prop :=
  ∃ members, HasMembers folder arguments members ∧ members.Supplies field value

/-- No option sets a field, and the settings file gives it a number out of its range. -/
structure FileExceeds (folder : Folder) (arguments : Arguments) (range : Field × Int × Int)
    (number : Number) : Prop where
  unset : arguments.field? range.1 = none
  gives : FileGives folder arguments range.1 (.number number)
  outside : ¬number.LiesIn range

theorem accented_of_accentedSettings {preset : Option Preset} {base accented : Settings}
    (succeeded : accentedSettings preset base = .ok accented) : Accents preset base accented := by
  cases preset with
  | none => exact Except.ok.inj succeeded
  | some preset =>
      have applied : (base.applyAccent (.text preset.primary)).mapError Failure.settings =
          .ok accented := succeeded
      exact mapError_eq_ok_iff.mp applied

/-- Merged settings hold what the last layer gives, and the members of the file have different
names. -/
theorem of_mergedSettings (succeeded : mergedSettings folder arguments = .ok settings) :
    ∃ members, HasMembers folder arguments members ∧ members.names.Nodup ∧
      ∀ field, field.get settings = layered arguments members field := by
  obtain ⟨base, loaded, succeeded⟩ := bind_eq_ok_iff.mp succeeded
  obtain ⟨accented, accents, succeeded⟩ := bind_eq_ok_iff.mp succeeded
  obtain ⟨members, hasMembers, merged⟩ := based_of_baseSettings loaded
  have overridden := mapError_eq_ok_iff.mp succeeded
  have acceptable : members.Acceptable := by
    rw [Settings.merge_eq_map_accept] at merged
    obtain ⟨named, accepted, -⟩ := map_eq_ok_iff.mp merged
    exact (Entries.accept_eq_ok_iff.mp accepted).1
  have accents := accented_of_accentedSettings accents
  exact ⟨members, hasMembers, acceptable.distinct, get_eq_layered merged accents overridden⟩

theorem accent?_of_isLength {preset : Option Preset} {field : Field}
    (length : field.isLength = true) : accent? preset field = none := by
  unfold accent?
  split
  · cases length
  · cases length
  · rfl

/-- After the check of the options a field exceeds its range through the settings file only. -/
theorem exceeds_iff (passed : checkOptionRanges arguments Settings.ranges = .ok ())
    (merged : mergedSettings folder arguments = .ok settings) (ranged : range ∈ Settings.ranges) :
    settings.Exceeds range number ↔ FileExceeds folder arguments range number := by
  obtain ⟨members, hasMembers, distinct, layers⟩ := of_mergedSettings merged
  have length : range.1.isLength = true := by
    revert ranged range
    decide
  have layer := layers range.1
  rw [layered, accent?_of_isLength length, Option.getD_none] at layer
  have gives : ∀ value, FileGives folder arguments range.1 value ↔
      (members.map Entries.named).lookup range.1.name = some value := by
    intro value
    rw [Entries.lookup_map_named_iff distinct]
    constructor
    · rintro ⟨others, hasOthers, supplied⟩
      cases hasMembers.unique hasOthers
      exact supplied
    · exact fun supplied => ⟨members, hasMembers, supplied⟩
  cases given : arguments.field? range.1 with
  | some value =>
      -- What an option gives was found in the range, whatever the file gives.
      obtain ⟨other, rfl, inside⟩ := within_of_checkOptionRanges passed range ranged value given
      rw [given, Option.getD_some, ← Settings.length?_eq_some_iff] at layer
      constructor
      · rintro ⟨found, outside⟩
        cases layer.symm.trans found
        exact absurd (Number.within_iff.mp inside) outside
      · rintro ⟨unset, -, -⟩
        rw [given] at unset
        contradiction
  | none =>
      rw [given, Option.getD_none] at layer
      cases found : (members.map Entries.named).lookup range.1.name with
      | some value =>
          rw [found, Option.getD_some] at layer
          rw [Settings.Exceeds, Settings.length?_eq_some_iff, layer]
          constructor
          · rintro ⟨rfl, outside⟩
            exact ⟨given, (gives _).mpr found, outside⟩
          · rintro ⟨-, fileGives, outside⟩
            have again := (gives _).mp fileGives
            rw [found] at again
            exact ⟨Option.some.inj again, outside⟩
      | none =>
          rw [found, Option.getD_none] at layer
          constructor
          · rintro ⟨holds, outside⟩
            rw [Settings.length?_eq_some_iff, layer, ← Settings.length?_eq_some_iff] at holds
            exact absurd (Settings.keeps_default ranged number holds) outside
          · rintro ⟨-, fileGives, -⟩
            have again := (gives _).mp fileGives
            rw [found] at again
            contradiction

/-- The two range checks agree.  After the options have passed theirs, merged settings are refused
exactly for what the settings file gives out of range to a field that no option sets, and for the
first such field; without a settings file they are never refused.  On a snapshot that holds the
numbers of the options the two checks answer alike. -/
theorem range_checks_agree :
    (∀ folder arguments, layeredSettings folder arguments = do
      let settings ← mergedSettings folder arguments
      settings.checkRanges.mapError Failure.settings
      return settings) ∧
    (∀ folder arguments settings, checkOptionRanges arguments Settings.ranges = .ok () →
      mergedSettings folder arguments = .ok settings →
      ((∃ error, settings.checkRanges = .error error) ↔
        ∃ range ∈ Settings.ranges, ∃ number, FileExceeds folder arguments range number) ∧
      (∀ error, settings.checkRanges = .error error →
        ∃ before range after number, Settings.ranges = before ++ range :: after ∧
          (∀ earlier ∈ before, ∀ other, ¬FileExceeds folder arguments earlier other) ∧
          FileExceeds folder arguments range number ∧
          error = .outOfRange range.1 range.2.1 range.2.2 number) ∧
      (given? arguments.settings = none → settings.checkRanges = .ok ())) ∧
    ∀ arguments settings, (∀ range ∈ Settings.ranges, Holds arguments settings range) →
      AnswerAlike (checkOptionRanges arguments Settings.ranges) settings.checkRanges := by
  refine ⟨layeredSettings_eq_checked, ?_, fun arguments settings => answerAlike_checks⟩
  intro folder arguments settings passed merged
  have exceeds : ∀ {range number}, range ∈ Settings.ranges →
      (settings.Exceeds range number ↔ FileExceeds folder arguments range number) :=
    exceeds_iff passed merged
  have refused : (∃ error, settings.checkRanges = .error error) ↔
      ∃ range ∈ Settings.ranges, ∃ number, FileExceeds folder arguments range number := by
    rw [Settings.checkRanges, Settings.exists_checkRangesIn_eq_error_iff]
    constructor
    · rintro ⟨range, ranged, number, outside⟩
      exact ⟨range, ranged, number, (exceeds ranged).mp outside⟩
    · rintro ⟨range, ranged, number, outside⟩
      exact ⟨range, ranged, number, (exceeds ranged).mpr outside⟩
  refine ⟨refused, ?_, ?_⟩
  · intro error failed
    obtain ⟨before, range, after, split, kept, number, outside, rfl⟩ :=
      Settings.checkRangesIn_eq_error_iff.mp failed
    have member : ∀ earlier ∈ before, earlier ∈ Settings.ranges := by
      intro earlier listed
      simp [split, listed]
    refine ⟨before, range, after, number, split, ?_, (exceeds (by simp [split])).mp outside, rfl⟩
    intro earlier listed other fileExceeds
    obtain ⟨found, outside⟩ := (exceeds (member earlier listed)).mpr fileExceeds
    exact outside (kept earlier listed other found)
  · intro unnamed
    cases checked : settings.checkRanges with
    | ok done => rfl
    | error error =>
        obtain ⟨range, -, number, fileExceeds⟩ := refused.mp ⟨error, checked⟩
        obtain ⟨members, hasMembers, key, listed, -⟩ := fileExceeds.gives
        rw [HasMembers, unnamed] at hasMembers
        subst hasMembers
        contradiction

/-- A settings file that leaves all ranges. -/
def excessive : Folder :=
  (settled ("\x7b\"fontSize\": 99, \"code_margin_top\": 50.5, ".toUTF8.toList ++
    "\"codeMarginBottom\": -1\x7d".toUTF8.toList)).folder

/-- Words that bring the font size of a settings file back into its range. -/
def moderateWords : List String :=
  ["--sample", "--settings", "s.json", "--font-size", "16"]

/-- What the words ask for. -/
def moderate : Arguments where
  settings := some "s.json"
  fields := [("font_size", .number (.double (Binary64.ofDecimal false 16 0)))]
  switches := [.sample]

/-- The option leaves the first field in its range, so the second one is refused; and a font size
that is no number is refused by both checks. -/
theorem range_checks_agree_excessive :
    Arguments.read moderateWords = .ok moderate ∧
    (∃ settings number, mergedSettings excessive moderate = .ok settings ∧
      settings.checkRanges = .error (.outOfRange .codeMarginTop 0 50 number) ∧
      FileExceeds excessive moderate (.codeMarginTop, 0, 50) number) ∧
    AnswerAlike
      (checkOptionRanges { fields := [("font_size", .number (.double .nan))] } Settings.ranges)
      { fontSize := .double .nan : Settings }.checkRanges := by
  refine ⟨rfl, ?_, ?_⟩
  · let margin := Number.double (Binary64.ofDecimal false 505 (-1))
    let settings : Settings :=
      { fontSize := .double (Binary64.ofDecimal false 16 0)
        codeMarginTop := margin
        codeMarginBottom := .int (-1) }
    have merged : mergedSettings excessive moderate = .ok settings :=
      toOption_eq_some_iff.mp (by decide +kernel)
    have refused : settings.checkRanges = .error (.outOfRange .codeMarginTop 0 50 margin) := rfl
    obtain ⟨_, ⟨field, low, high⟩, _, number, -, -, exceeds, equal⟩ :=
      (range_checks_agree.2.1 excessive moderate settings rfl merged).2.1 _ refused
    cases equal
    exact ⟨settings, margin, merged, refused, exceeds⟩
  · refine range_checks_agree.2.2 _ _ ?_
    simp only [Settings.ranges, List.forall_mem_cons]
    refine ⟨⟨?_, ?_⟩, ⟨?_, fun _ => ?_⟩, ⟨?_, fun _ => ?_⟩, ?_⟩
    · rintro value ⟨⟩
      exact ⟨.double .nan, rfl, rfl⟩
    · rintro ⟨⟩
    · rintro value ⟨⟩
    · exact @Settings.keeps_default (.codeMarginTop, 0, 50) (by decide)
    · rintro value ⟨⟩
    · exact @Settings.keeps_default (.codeMarginBottom, 0, 50) (by decide)
    · rintro range ⟨⟩

end Cli

end Typeset
