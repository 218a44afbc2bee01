import Typeset.Proofs.Settings.Outcome
import Typeset.Settings.File

/-!
# What loading a settings file ends with

A settings file is loaded in three stages: its bytes are decoded, the text is read, and the
members of the object in it are merged.  Main statement: whatever the bytes are, loading ends
with what the merge makes of the members or with an error of the value kind, except for members
that are refused for an integer beyond the largest double.
-/

namespace Typeset

namespace Settings

variable {α : Type} {merge : Entries → Except SettingsError α} {name : String}
  {bytes : List UInt8} {members : Entries}

/-! ## Stages -/

/-- The text of a file's bytes is an object with these members. -/
def HoldsObject (bytes : List UInt8) (members : Entries) : Prop :=
  ∃ text, decodeText bytes = .ok text ∧ Json.parse text = .ok (.object members)

theorem HoldsObject.unique {others : Entries} (holds : HoldsObject bytes members)
    (othersHold : HoldsObject bytes others) : members = others := by
  obtain ⟨text, decoded, parsed⟩ := holds
  obtain ⟨otherText, otherDecoded, otherParsed⟩ := othersHold
  cases decoded.symm.trans otherDecoded
  cases parsed.symm.trans otherParsed
  rfl

/-- The members of the object in a file. -/
def readObject (name : String) (bytes : List UInt8) : Except LoadError Entries := do
  let text ← (decodeText bytes).mapError .file
  match Json.parse text with
  | .ok (.object members) => return members
  | .ok value => throw (.notObject name value)
  | .error fault => throw (.malformed name fault text)

/-- Merge the members of the object in a file. -/
def loadWith (merge : Entries → Except SettingsError α) (name : String) (bytes : List UInt8) :
    Except LoadError α := do
  let members ← readObject name bytes
  (merge members).mapError (.refused name)

/-- Settings are loaded in the three stages. -/
theorem load_eq_loadWith (name : String) (bytes : List UInt8) (base : Settings) :
    load name bytes base = loadWith base.merge name bytes := by
  rw [load, loadWith, readObject]
  cases decodeText bytes with
  | error error => rfl
  | ok text =>
      dsimp only [Except.mapError, bind, Except.bind]
      rw [loadText]
      cases Json.parse text with
      | error fault => rfl
      | ok value =>
          cases value with
          | object members =>
              dsimp only [pure, Except.pure]
              cases base.merge members <;> rfl
          | _ => rfl

theorem readObject_eq_ok_iff : readObject name bytes = .ok members ↔ HoldsObject bytes members := by
  simp only [readObject, bind_eq_ok_iff, mapError_eq_ok_iff, HoldsObject]
  refine exists_congr fun text => and_congr_right fun _ => ?_
  cases Json.parse text with
  | error fault => simp [throw, throwThe, MonadExceptOf.throw]
  | ok value => cases value <;> simp [throw, throwThe, MonadExceptOf.throw, pure, Except.pure]

/-- Bytes that hold no object are an error of the value kind, and not a refusal of members. -/
theorem kind_of_readObject {error : LoadError} (failed : readObject name bytes = .error error) :
    error.kind = .value ∧ ∀ other refusal, error ≠ .refused other refusal := by
  rcases bind_eq_error_iff.mp failed with undecoded | ⟨text, -, unread⟩
  · obtain ⟨fault, undecoded, rfl⟩ := mapError_eq_error_iff.mp undecoded
    unfold decodeText at undecoded
    split at undecoded
    · cases undecoded
    · cases undecoded
      exact ⟨rfl, by simp⟩
  · split at unread
    · cases unread
    · cases unread
      exact ⟨rfl, by simp⟩
    · cases unread
      exact ⟨rfl, by simp⟩

theorem loadWith_eq_ok_iff {result : α} :
    loadWith merge name bytes = .ok result ↔
      ∃ members, HoldsObject bytes members ∧ merge members = .ok result := by
  simp only [loadWith, bind_eq_ok_iff, readObject_eq_ok_iff, mapError_eq_ok_iff]

theorem loadWith_eq_refused_iff {other : String} {refusal : SettingsError} :
    loadWith merge name bytes = .error (.refused other refusal) ↔
      other = name ∧ ∃ members, HoldsObject bytes members ∧ merge members = .error refusal := by
  have notRead : readObject name bytes ≠ .error (.refused other refusal) :=
    fun failed => (kind_of_readObject failed).2 other refusal rfl
  simp only [loadWith, bind_eq_error_iff, readObject_eq_ok_iff, mapError_eq_error_iff, notRead,
    false_or, LoadError.refused.injEq]
  constructor
  · rintro ⟨members, holds, fault, refused, rfl, rfl⟩
    exact ⟨rfl, members, holds, refused⟩
  · rintro ⟨rfl, members, holds, refused⟩
    exact ⟨members, holds, refusal, refused, rfl, rfl⟩

theorem load_eq_ok_iff {base settings : Settings} :
    load name bytes base = .ok settings ↔
      ∃ members, HoldsObject bytes members ∧ base.merge members = .ok settings := by
  rw [load_eq_loadWith, loadWith_eq_ok_iff]

theorem load_eq_refused_iff {other : String} {base : Settings} {refusal : SettingsError} :
    load name bytes base = .error (.refused other refusal) ↔
      other = name ∧ ∃ members, HoldsObject bytes members ∧ members.Refused refusal := by
  simp only [load_eq_loadWith, loadWith_eq_refused_iff, merge_eq_error_iff]

/-! ## Ends -/

/-- What loading a file ends with.  The members of the object in it are merged; or they are
refused for an integer beyond the largest double; or there is an error of the value kind, and
members, if there are any, are refused for something else. -/
inductive LoadEnds (merge : Entries → Except SettingsError α) (bytes : List UInt8) :
    Except LoadError α → Prop where
  | made {members : Entries} {result : α} (holds : HoldsObject bytes members)
      (merged : merge members = .ok result) : LoadEnds merge bytes (.ok result)
  | failed {error : LoadError} (kind : error.kind = .value)
      (refused : ∀ members, HoldsObject bytes members →
        ∃ refusal, members.Refused refusal ∧ refusal ≠ .tooLarge) :
      LoadEnds merge bytes (.error error)
  | tooLarge {error : LoadError} {members : Entries} (kind : error.kind = .overflow)
      (holds : HoldsObject bytes members) (refused : members.Refused .tooLarge) :
      LoadEnds merge bytes (.error error)

/-- A merge that refuses members for what is told from them ends loading in one of three ways. -/
theorem loadEnds_loadWith
    (refuses : ∀ members error, merge members = .error error ↔ members.Refused error)
    (name : String) (bytes : List UInt8) : LoadEnds merge bytes (loadWith merge name bytes) := by
  cases read : readObject name bytes with
  | error error =>
      have ends : loadWith merge name bytes = .error error := by rw [loadWith, read]; rfl
      rw [ends]
      refine .failed (kind_of_readObject read).1 fun members holds => ?_
      cases read.symm.trans (readObject_eq_ok_iff.mpr holds)
  | ok members =>
      have holds := readObject_eq_ok_iff.mp read
      have ends : loadWith merge name bytes = (merge members).mapError (.refused name) := by
        rw [loadWith, read]
        rfl
      rw [ends]
      cases merged : merge members with
      | ok result => exact .made holds merged
      | error refusal =>
          have refused := (refuses members refusal).mp merged
          by_cases large : refusal = .tooLarge
          · subst large
            exact .tooLarge rfl holds refused
          · refine .failed ?_ fun others othersHold => ?_
            · cases refusal with
              | tooLarge => exact absurd rfl large
              | _ => rfl
            · cases holds.unique othersHold
              exact ⟨refusal, refused, large⟩

end Settings

/-- Load values into a snapshot of any values from the bytes of a file. -/
def Snapshot.load (base : Snapshot) (name : String) (bytes : List UInt8) :
    Except LoadError Snapshot :=
  Settings.loadWith base.merge name bytes

namespace Settings

/-- Settings are loaded as the snapshot of their values is. -/
theorem map_snapshot_load (name : String) (bytes : List UInt8) (base : Settings) :
    (load name bytes base).map snapshot = base.snapshot.load name bytes := by
  rw [load_eq_loadWith, Snapshot.load, loadWith, loadWith]
  cases readObject name bytes with
  | error error => rfl
  | ok members =>
      dsimp only [bind, Except.bind]
      rw [← map_snapshot_merge]
      cases base.merge members <;> rfl

/-- Whatever a file holds and whatever it is loaded over, typed settings or a snapshot of any
values: loading ends with what the merge makes of the members of the object in it, or with an
error of the value kind, or with an overflow when the members are refused for an integer beyond
the largest double. -/
theorem load_ends (name : String) (bytes : List UInt8) :
    (∀ base : Settings, LoadEnds base.merge bytes (load name bytes base)) ∧
    (∀ base : Snapshot, LoadEnds base.merge bytes (base.load name bytes)) ∧
    ∀ base : Settings, (load name bytes base).map snapshot = base.snapshot.load name bytes := by
  refine ⟨fun base => ?_, fun base => ?_, map_snapshot_load name bytes⟩
  · rw [load_eq_loadWith]
    exact loadEnds_loadWith (fun _ _ => merge_eq_error_iff) name bytes
  · exact loadEnds_loadWith (fun _ _ => Snapshot.merge_eq_error_iff) name bytes

/-- A height of one and 400 zeros is neither loaded nor an error of the value kind. -/
theorem load_oversized :
    let bytes := "\x7b\"lineHeight\": 1".toUTF8.toList ++ List.replicate 400 0x30 ++ [0x7d]
    let ends := load "settings.json" bytes {}
    ¬((∃ settings, ends = .ok settings) ∨ ∃ error, ends = .error error ∧ error.kind = .value) := by
  intro bytes ends
  have overflows : (match ends with
      | .ok _ => none
      | .error error => some (error.kind, error.message)) =
        some (.overflow, "int too large to convert to float") := by
    decide +kernel
  rintro (⟨settings, loaded⟩ | ⟨error, failed, kind⟩)
  · rw [loaded] at overflows
    cases overflows
  · rw [failed] at overflows
    cases kind.symm.trans (Prod.mk.inj (Option.some.inj overflows)).1

end Settings

end Typeset
