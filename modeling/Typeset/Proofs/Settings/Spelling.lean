import Mathlib.Data.List.Forall2
import Typeset.Proofs.Settings.Outcome

/-!
# Orders and spellings of entries

Entries may come in any order, and a key may be written with underscores or in camel case.
Main statement: merges of the same entries in two orders end alike, and merges of two spellings
of the same entries end the same.  In another order only a refusal for names may be worded
differently, since it is the first such name that is reported.
-/

namespace Typeset

/-- Two ways to end alike: with the same result, or with refusals of one kind, which are worded
alike unless they are for names. -/
inductive EndsAlike {α : Type} : Except SettingsError α → Except SettingsError α → Prop where
  | same (result : α) : EndsAlike (.ok result) (.ok result)
  | refused {first second : SettingsError} (kind : first.kind = second.kind)
      (wording : first.kind ≠ .naming → first.message = second.message) :
      EndsAlike (.error first) (.error second)

namespace EndsAlike

variable {α β : Type}

theorem eq_of_ok {result other : α} (alike : EndsAlike (.ok result) (.ok other)) :
    result = other := by
  cases alike
  rfl

/-- What ends alike once its results are told by what they hold, ended alike before. -/
theorem of_map {f : α → β} (injective : Function.Injective f)
    {first second : Except SettingsError α} (alike : EndsAlike (first.map f) (second.map f)) :
    EndsAlike first second := by
  cases first with
  | ok result =>
      cases second with
      | ok other =>
          cases injective (eq_of_ok alike)
          exact .same result
      | error error => cases alike
  | error error =>
      cases second with
      | ok other => cases alike
      | error other =>
          cases alike with
          | refused kind wording => exact .refused kind wording

end EndsAlike

namespace Entries

variable {entries other : Entries} {error otherError : SettingsError}

/-! ## Orders -/

theorem supplies_iff_of_perm (reordered : entries.Perm other) {field : Field} {value : Value} :
    entries.Supplies field value ↔ other.Supplies field value := by
  simp only [Supplies, reordered.mem_iff]

theorem Acceptable.of_perm (acceptable : entries.Acceptable) (reordered : entries.Perm other) :
    other.Acceptable where
  distinct := (reordered.map _).nodup_iff.mp acceptable.distinct
  accepted field value supplied :=
    acceptable.accepted field value ((supplies_iff_of_perm reordered).mpr supplied)
  known entry member := acceptable.known entry (reordered.mem_iff.mpr member)

theorem Refused.unique (refused : entries.Refused error)
    (otherRefused : entries.Refused otherError) : error = otherError := by
  cases (accept_eq_error_iff.mpr refused).symm.trans (accept_eq_error_iff.mpr otherRefused)
  rfl

/-- Values are checked in field order, so the order of the entries does not matter to them. -/
theorem Refused.of_perm (refused : entries.Refused error) (reordered : entries.Perm other)
    (notNames : error.kind ≠ .naming) : other.Refused error := by
  cases refused with
  | repeated split distinct again => exact absurd rfl notNames
  | unexpected distinct accepted split known unknown => exact absurd rfl notNames
  | invalid distinct order accepted supplied refuses =>
      refine .invalid ((reordered.map _).nodup_iff.mp distinct) order ?_
        ((supplies_iff_of_perm reordered).mp supplied) refuses
      intro earlier member value supplied
      exact accepted earlier member value ((supplies_iff_of_perm reordered).mpr supplied)

/-- A refusal that is not for names is the refusal in every order. -/
theorem Refused.eq_of_perm (refused : entries.Refused error) (reordered : entries.Perm other)
    (otherRefused : other.Refused otherError) (notNames : error.kind ≠ .naming) :
    error = otherError :=
  (refused.of_perm reordered notNames).unique otherRefused

theorem Refused.kind_eq_of_perm (refused : entries.Refused error)
    (reordered : entries.Perm other) (otherRefused : other.Refused otherError) :
    error.kind = otherError.kind := by
  by_cases names : error.kind = .naming
  · by_cases otherNames : otherError.kind = .naming
    · rw [names, otherNames]
    · rw [otherRefused.eq_of_perm reordered.symm refused otherNames]
  · rw [refused.eq_of_perm reordered otherRefused names]

end Entries

/-! ## Spellings -/

/-- The two ways to write the name of a field. -/
inductive Field.Spells (field : Field) : String → Prop where
  | name : Spells field field.name
  | camelName : Spells field field.camelName

theorem Field.Spells.resolveKey_eq {field : Field} {key : String} (spells : field.Spells key) :
    Entries.resolveKey key = field.name := by
  cases spells with
  | name => exact Entries.resolveKey_name field
  | camelName => cases field <;> rfl

namespace Entries

/-- A key stays as it is, or is replaced by a spelling of the same field. -/
def Respells (key other : String) : Prop :=
  key = other ∨ ∃ field : Field, field.Spells key ∧ field.Spells other

/-- The same values in the same order, under keys that may be spelled otherwise. -/
def Respelled (entries other : Entries) : Prop :=
  List.Forall₂ (fun entry respelled => Respells entry.1 respelled.1 ∧ entry.2 = respelled.2)
    entries other

theorem Respells.resolveKey_eq {key other : String} (respells : Respells key other) :
    resolveKey key = resolveKey other := by
  rcases respells with rfl | ⟨field, spells, otherSpells⟩
  · rfl
  · rw [spells.resolveKey_eq, otherSpells.resolveKey_eq]

theorem Respelled.resolve_eq {entries other : Entries} (respelled : entries.Respelled other)
    (seen : Entries) : resolve seen entries = resolve seen other := by
  induction respelled generalizing seen with
  | nil => rfl
  | cons same _ ih =>
      obtain ⟨respells, value⟩ := same
      rw [resolve, resolve, respells.resolveKey_eq, value, ih]

theorem Respelled.accept_eq {entries other : Entries} (respelled : entries.Respelled other) :
    entries.accept = other.accept := by
  rw [accept, accept, respelled.resolve_eq]

end Entries

/-! ## Merges -/

theorem Snapshot.Replaced.of_perm {base merged : Snapshot} {entries other : Entries}
    (replaced : base.Replaced entries merged) (reordered : entries.Perm other) :
    base.Replaced other merged where
  supplied field value supplied :=
    replaced.supplied field value ((Entries.supplies_iff_of_perm reordered).mpr supplied)
  kept field absent :=
    replaced.kept field fun value supplied =>
      absent value ((Entries.supplies_iff_of_perm reordered).mp supplied)

theorem Snapshot.merge_eq_ok_of_perm {base merged : Snapshot} {entries other : Entries}
    (reordered : entries.Perm other) (made : base.merge entries = .ok merged) :
    base.merge other = .ok merged := by
  obtain ⟨acceptable, replaced⟩ := merge_eq_ok_iff.mp made
  exact merge_eq_ok_iff.mpr ⟨acceptable.of_perm reordered, replaced.of_perm reordered⟩

theorem Snapshot.endsAlike_of_perm {entries other : Entries} (reordered : entries.Perm other)
    (base : Snapshot) : EndsAlike (base.merge entries) (base.merge other) := by
  cases ends : base.merge entries with
  | ok merged =>
      rw [merge_eq_ok_of_perm reordered ends]
      exact .same merged
  | error error =>
      cases otherEnds : base.merge other with
      | ok merged => cases ends.symm.trans (merge_eq_ok_of_perm reordered.symm otherEnds)
      | error otherError =>
          have refused := merge_eq_error_iff.mp ends
          have otherRefused := merge_eq_error_iff.mp otherEnds
          refine .refused (refused.kind_eq_of_perm reordered otherRefused) ?_
          intro notNames
          rw [refused.eq_of_perm reordered otherRefused notNames]

theorem Settings.endsAlike_of_perm {entries other : Entries} (reordered : entries.Perm other)
    (settings : Settings) : EndsAlike (settings.merge entries) (settings.merge other) := by
  apply EndsAlike.of_map snapshot_injective
  rw [map_snapshot_merge, map_snapshot_merge]
  exact Snapshot.endsAlike_of_perm reordered _

/-- Whatever is merged into, typed settings or a snapshot of any values: the same entries in
another order end alike, and the same entries in another spelling end the same. -/
theorem Settings.merge_agrees (entries other : Entries) :
    (entries.Perm other →
      (∀ settings : Settings, EndsAlike (settings.merge entries) (settings.merge other)) ∧
      ∀ base : Snapshot, EndsAlike (base.merge entries) (base.merge other)) ∧
    (entries.Respelled other →
      (∀ settings : Settings, settings.merge entries = settings.merge other) ∧
      ∀ base : Snapshot, base.merge entries = base.merge other) := by
  constructor
  · intro reordered
    exact ⟨endsAlike_of_perm reordered, Snapshot.endsAlike_of_perm reordered⟩
  · intro respelled
    refine ⟨fun settings => ?_, fun base => ?_⟩
    · rw [merge_eq_map_accept, merge_eq_map_accept, respelled.accept_eq]
    · rw [Snapshot.merge, Snapshot.merge, respelled.accept_eq]

/-- Of two unknown keys the first one is reported, whatever its order and the spelling of the
others. -/
theorem Settings.merge_agrees_unknown :
    let entries : Entries :=
      [("color", .null), ("fontSize", .number (.int 18)), ("size", .null)]
    let respelled : Entries :=
      [("color", .null), ("font_size", .number (.int 18)), ("size", .null)]
    entries.Perm entries.reverse ∧ entries.Respelled respelled ∧
      EndsAlike (({} : Settings).merge entries) (({} : Settings).merge entries.reverse) ∧
      ({} : Settings).merge entries = ({} : Settings).merge respelled ∧
      ({} : Settings).merge entries = .error (.unexpected "color") ∧
      ({} : Settings).merge entries.reverse = .error (.unexpected "size") := by
  intro entries respelled
  have reordered : entries.Perm entries.reverse := (List.reverse_perm entries).symm
  have spelled : entries.Respelled respelled :=
    .cons ⟨.inl rfl, rfl⟩ (.cons ⟨.inr ⟨.fontSize, .camelName, .name⟩, rfl⟩
      (.cons ⟨.inl rfl, rfl⟩ .nil))
  refine ⟨reordered, spelled, ?_, ?_, rfl, rfl⟩
  · exact ((merge_agrees entries entries.reverse).1 reordered).1 {}
  · exact ((merge_agrees entries respelled).2 spelled).1 {}

end Typeset
