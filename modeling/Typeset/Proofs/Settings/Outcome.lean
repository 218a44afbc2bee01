import Mathlib.Logic.Unique
import Typeset.Proofs.Settings.Merge
import Typeset.Proofs.Settings.Value

/-!
# What a merge ends with

The three steps of a merge look at the entries in three orders: names are resolved in list
order, values are checked in field order, and names of no field are refused in list order
again.  Main statement: which of several faults a merge is refused for, and what it stores
when there is none.  Neither depends on the snapshot that is merged into, whose own values
are not looked at.
-/

namespace Typeset

namespace Entries

/-- The names that the keys stand for. -/
def names (entries : Entries) : List String :=
  entries.map fun entry => resolveKey entry.1

/-- An entry whose key stands for the name of a field supplies its value. -/
def Supplies (entries : Entries) (field : Field) (value : Value) : Prop :=
  ∃ key, (key, value) ∈ entries ∧ resolveKey key = field.name

/-- A key that stands for the name of a field. -/
def IsKnown (key : String) : Prop :=
  ∃ field : Field, resolveKey key = field.name

theorem map_fst_map_named (entries : Entries) :
    (entries.map named).map Prod.fst = entries.names := by
  simp [names, named, Function.comp_def]

theorem mem_map_named_iff {entries : Entries} {field : Field} {value : Value} :
    (field.name, value) ∈ entries.map named ↔ entries.Supplies field value := by
  constructor
  · intro member
    obtain ⟨⟨key, supplied⟩, listed, equal⟩ := List.mem_map.mp member
    obtain ⟨resolved, rfl⟩ := Prod.mk.inj equal
    exact ⟨key, listed, resolved⟩
  · rintro ⟨key, listed, resolved⟩
    exact List.mem_map.mpr ⟨(key, value), listed, by rw [named, resolved]⟩

/-- A key that is not a field's stands for itself. -/
theorem resolveKey_eq_self {key : String} (unknown : ¬IsKnown key) : resolveKey key = key := by
  unfold resolveKey
  split
  · rename_i field found
    refine absurd ⟨field, ?_⟩ unknown
    rw [resolveKey, found]
  · rfl

theorem names_cons (entry : String × Value) (entries : Entries) :
    names (entry :: entries) = resolveKey entry.1 :: names entries :=
  rfl

/-- Names are refused for the first one that was given before. -/
theorem resolve_eq_error_iff {seen entries : Entries} {error : SettingsError} :
    resolve seen entries = .error error ↔
      ∃ before key value after, entries = before ++ (key, value) :: after ∧
        (names before).Nodup ∧ (∀ name ∈ names before, name ∉ seen.map Prod.fst) ∧
        (resolveKey key ∈ seen.map Prod.fst ∨ resolveKey key ∈ names before) ∧
        error = .repeated (resolveKey key) := by
  induction entries generalizing seen with
  | nil => simp [resolve]
  | cons entry entries ih =>
      rcases entry with ⟨key, value⟩
      have found : seen.any (·.1 == resolveKey key) = true ↔
          resolveKey key ∈ seen.map Prod.fst := by
        simp
      rw [resolve]
      by_cases repeated : resolveKey key ∈ seen.map Prod.fst
      · simp only [found.mpr repeated, if_true, Except.error.injEq]
        constructor
        · rintro rfl
          exact ⟨[], key, value, entries, rfl, List.nodup_nil, List.forall_mem_nil _, .inl repeated,
            rfl⟩
        · rintro ⟨before, other, otherValue, after, split, -, fresh, -, rfl⟩
          cases before with
          | nil =>
              cases split
              rfl
          | cons first before =>
              cases split
              exact absurd repeated (fresh _ List.mem_cons_self)
      · rw [if_neg (mt found.mp repeated), ih]
        constructor
        · rintro ⟨before, other, otherValue, after, rfl, distinct, fresh, again, rfl⟩
          refine ⟨(key, value) :: before, other, otherValue, after, rfl, ?_, ?_, ?_, rfl⟩
          · refine List.nodup_cons.mpr ⟨?_, distinct⟩
            intro member
            exact fresh _ member List.mem_cons_self
          · refine List.forall_mem_cons.mpr ⟨repeated, ?_⟩
            intro name member earlier
            exact fresh name member (List.mem_cons_of_mem _ earlier)
          · rw [List.map_cons, List.mem_cons, or_assoc, or_left_comm] at again
            rwa [names_cons, List.mem_cons]
        · rintro ⟨before, other, otherValue, after, split, distinct, fresh, again, rfl⟩
          cases before with
          | nil =>
              cases split
              rcases again with earlier | none
              · contradiction
              · contradiction
          | cons first before =>
              cases split
              obtain ⟨unseen, distinct⟩ := List.nodup_cons.mp distinct
              refine ⟨before, other, otherValue, after, rfl, distinct, ?_, ?_, rfl⟩
              · intro name member earlier
                rcases List.mem_cons.mp earlier with rfl | earlier
                · contradiction
                · exact fresh name (List.mem_cons_of_mem _ member) earlier
              · rw [names_cons, List.mem_cons, or_left_comm, ← or_assoc] at again
                rwa [List.map_cons, List.mem_cons]

end Entries

namespace Settings

/-- Values are refused for the first field in field order whose value is. -/
theorem checkFields_eq_error_iff {named : Entries} {fields : List Field} {error : SettingsError} :
    checkFields named fields = .error error ↔
      ∃ before field after, fields = before ++ field :: after ∧
        (∀ earlier ∈ before, ∀ value, named.lookup earlier.name = some value →
          earlier.check value = .ok ()) ∧
        ∃ value, named.lookup field.name = some value ∧ field.check value = .error error := by
  induction fields with
  | nil => simp [checkFields]
  | cons first fields ih =>
      rw [exists_first_cons_iff, ← ih, checkFields]
      cases found : named.lookup first.name with
      | none => simp
      | some value => simp [bind_eq_error_iff, Unique.exists_iff]

end Settings

namespace Entries

variable {entries : Entries}

/-- With different names, the value under the name of a field is the one that is supplied. -/
theorem lookup_map_named_iff (distinct : entries.names.Nodup) {field : Field} {value : Value} :
    (entries.map named).lookup field.name = some value ↔ entries.Supplies field value := by
  rw [← mem_map_named_iff]
  constructor
  · exact mem_of_lookup_eq_some
  · apply lookup_eq_some_of_mem
    rw [map_fst_map_named]
    exact distinct

theorem isNone_ofName?_iff {key : String} :
    (Field.ofName? (resolveKey key)).isNone = true ↔ ¬IsKnown key := by
  rw [Option.isNone_iff_eq_none]
  constructor
  · rintro none ⟨field, resolved⟩
    rw [resolved, Field.ofName?_name] at none
    contradiction
  · intro unknown
    apply Option.eq_none_iff_forall_ne_some.mpr
    intro field found
    exact unknown ⟨field, (Field.ofName?_eq_some_iff.mp found).symm⟩

/-- Keys are refused for the first one that is not a field's. -/
theorem firstUnexpected?_eq_some_iff {unexpected : String} :
    Settings.firstUnexpected? (entries.map named) = some unexpected ↔
      ∃ before key value after, entries = before ++ (key, value) :: after ∧
        (∀ entry ∈ before, IsKnown entry.1) ∧ ¬IsKnown key ∧ unexpected = key := by
  simp only [Settings.firstUnexpected?, List.find?_map, Option.map_map, Option.map_eq_some_iff,
    List.find?_eq_some_iff_append, Function.comp_apply, named, Bool.not_eq_true',
    ← Bool.not_eq_true, isNone_ofName?_iff, not_not]
  constructor
  · rintro ⟨⟨key, value⟩, ⟨unknown, before, after, rfl, known⟩, rfl⟩
    exact ⟨before, key, value, after, rfl, known, unknown, resolveKey_eq_self unknown⟩
  · rintro ⟨before, key, value, after, rfl, known, unknown, rfl⟩
    exact ⟨(unexpected, value), ⟨unknown, before, after, rfl, known⟩, resolveKey_eq_self unknown⟩

/-- Entries that are fit to be stored, under the names of their fields. -/
def accept (entries : Entries) : Except SettingsError Entries := do
  let named ← resolve [] entries
  Settings.checkFields named Field.all
  match Settings.firstUnexpected? named with
  | some key => throw (.unexpected key)
  | none => return named

/-- Entries that can be stored: they name different fields, each with a value that it takes. -/
structure Acceptable (entries : Entries) : Prop where
  distinct : entries.names.Nodup
  accepted : ∀ field value, entries.Supplies field value → field.Accepts value
  known : ∀ entry ∈ entries, IsKnown entry.1

/-- What entries are refused for: a name that was given before; else, in field order, a value
that its field does not take; else a key that is not a field's. -/
inductive Refused (entries : Entries) : SettingsError → Prop where
  | repeated {before after : Entries} {key : String} {value : Value}
      (split : entries = before ++ (key, value) :: after) (distinct : before.names.Nodup)
      (again : resolveKey key ∈ before.names) : Refused entries (.repeated (resolveKey key))
  | invalid {before after : List Field} {field : Field} {value : Value} {error : SettingsError}
      (distinct : entries.names.Nodup) (order : Field.all = before ++ field :: after)
      (accepted : ∀ earlier ∈ before, ∀ value, entries.Supplies earlier value →
        earlier.Accepts value)
      (supplied : entries.Supplies field value) (refuses : field.Refuses value error) :
      Refused entries error
  | unexpected {before after : Entries} {key : String} {value : Value}
      (distinct : entries.names.Nodup)
      (accepted : ∀ field value, entries.Supplies field value → field.Accepts value)
      (split : entries = before ++ (key, value) :: after)
      (known : ∀ entry ∈ before, IsKnown entry.1) (unknown : ¬IsKnown key) :
      Refused entries (.unexpected key)

theorem resolve_nil_eq_named_iff {resolved : Entries} :
    resolve [] entries = .ok resolved ↔ entries.names.Nodup ∧ resolved = entries.map named := by
  rw [resolve_nil_eq_ok_iff]
  constructor
  · rintro ⟨rfl, distinct⟩
    rw [map_fst_map_named] at distinct
    exact ⟨distinct, rfl⟩
  · rintro ⟨distinct, rfl⟩
    rw [map_fst_map_named]
    exact ⟨rfl, distinct⟩

theorem checkFields_all_eq_ok_iff (distinct : entries.names.Nodup) :
    Settings.checkFields (entries.map named) Field.all = .ok () ↔
      ∀ field value, entries.Supplies field value → field.Accepts value := by
  simp only [Settings.checkFields_eq_ok_iff, lookup_map_named_iff distinct, Field.check_eq_ok_iff,
    Field.mem_all, true_implies]

theorem firstUnexpected?_map_named_eq_none_iff :
    Settings.firstUnexpected? (entries.map named) = none ↔ ∀ entry ∈ entries, IsKnown entry.1 := by
  rw [Settings.firstUnexpected?_eq_none_iff, List.forall_mem_map]
  simp only [named, IsKnown, eq_comm]

theorem accept_eq_ok_iff {accepted : Entries} :
    entries.accept = .ok accepted ↔ entries.Acceptable ∧ accepted = entries.map named := by
  simp only [accept, bind_eq_ok_iff, resolve_nil_eq_named_iff]
  constructor
  · rintro ⟨_, ⟨distinct, rfl⟩, _, checked, stored⟩
    cases unexpected : Settings.firstUnexpected? (entries.map named) with
    | some key =>
        rw [unexpected] at stored
        contradiction
    | none =>
        rw [unexpected] at stored
        cases stored
        exact ⟨⟨distinct, (checkFields_all_eq_ok_iff distinct).mp checked,
          firstUnexpected?_map_named_eq_none_iff.mp unexpected⟩, rfl⟩
  · rintro ⟨acceptable, rfl⟩
    refine ⟨_, ⟨acceptable.distinct, rfl⟩, (),
      (checkFields_all_eq_ok_iff acceptable.distinct).mpr acceptable.accepted, ?_⟩
    rw [firstUnexpected?_map_named_eq_none_iff.mpr acceptable.known]
    rfl

theorem accept_eq_error_iff {error : SettingsError} :
    entries.accept = .error error ↔ entries.Refused error := by
  simp only [accept, bind_eq_error_iff, resolve_nil_eq_named_iff]
  constructor
  · rintro (repeated | ⟨_, ⟨distinct, rfl⟩, invalid | ⟨_, checked, stored⟩⟩)
    · obtain ⟨before, key, value, after, split, distinct, -, again, rfl⟩ :=
        resolve_eq_error_iff.mp repeated
      exact .repeated split distinct (again.resolve_left List.not_mem_nil)
    · obtain ⟨before, field, after, order, accepted, value, supplied, refuses⟩ :=
        Settings.checkFields_eq_error_iff.mp invalid
      simp only [lookup_map_named_iff distinct, Field.check_eq_ok_iff,
        Field.check_eq_error_iff] at accepted supplied refuses
      exact .invalid distinct order accepted supplied refuses
    · have accepted := (checkFields_all_eq_ok_iff distinct).mp checked
      cases unexpected : Settings.firstUnexpected? (entries.map named) with
      | none =>
          rw [unexpected] at stored
          contradiction
      | some key =>
          rw [unexpected] at stored
          cases stored
          obtain ⟨before, key, value, after, split, known, unknown, rfl⟩ :=
            firstUnexpected?_eq_some_iff.mp unexpected
          exact .unexpected distinct accepted split known unknown
  · intro refused
    cases refused with
    | repeated split distinct again =>
        exact .inl (resolve_eq_error_iff.mpr
          ⟨_, _, _, _, split, distinct, fun _ _ => List.not_mem_nil, .inr again, rfl⟩)
    | invalid distinct order accepted supplied refuses =>
        refine .inr ⟨_, ⟨distinct, rfl⟩, .inl (Settings.checkFields_eq_error_iff.mpr ?_)⟩
        simp only [lookup_map_named_iff distinct, Field.check_eq_ok_iff, Field.check_eq_error_iff]
        exact ⟨_, _, _, order, accepted, _, supplied, refuses⟩
    | unexpected distinct accepted split known unknown =>
        refine .inr ⟨_, ⟨distinct, rfl⟩, .inr ⟨(), ?_, ?_⟩⟩
        · exact (checkFields_all_eq_ok_iff distinct).mpr accepted
        · rw [firstUnexpected?_eq_some_iff.mpr ⟨_, _, _, _, split, known, unknown, rfl⟩]
          rfl

end Entries

/-! ## Snapshots -/

theorem Settings.merge_eq_map_accept (base : Settings) (entries : Entries) :
    base.merge entries = entries.accept.map base.store := by
  unfold merge Entries.accept
  dsimp only [bind, Except.bind]
  cases Entries.resolve [] entries with
  | error error => rfl
  | ok named =>
      dsimp only
      cases checkFields named Field.all with
      | error error => rfl
      | ok checked =>
          dsimp only
          cases firstUnexpected? named <;> rfl

theorem Settings.merge_eq_error_iff {base : Settings} {entries : Entries}
    {error : SettingsError} : base.merge entries = .error error ↔ entries.Refused error := by
  rw [merge_eq_map_accept, map_eq_error_iff, Entries.accept_eq_error_iff]

/-- The values of a snapshot, of whatever kind. -/
abbrev Snapshot :=
  Field → Value

/-- The values that settings hold. -/
def Settings.snapshot (settings : Settings) : Snapshot :=
  fun field => field.get settings

/-- A snapshot is told by the values of its fields. -/
theorem Settings.snapshot_injective : Function.Injective Settings.snapshot := by
  intro settings other same
  have values : ∀ field : Field, field.get settings = field.get other := congrFun same
  cases settings
  cases other
  simp only [Settings.mk.injEq]
  exact ⟨Value.text.inj (values .headingColor), Value.text.inj (values .boldColor),
    Value.text.inj (values .textColor), Value.text.inj (values .codeBackground),
    Value.number.inj (values .codeMarginTop), Value.number.inj (values .codeMarginBottom),
    Value.number.inj (values .fontSize), Value.number.inj (values .lineHeight)⟩

namespace Snapshot

variable {base merged : Snapshot} {entries : Entries} {error : SettingsError}

/-- Replace the values of the fields that are named. -/
def replace (base : Snapshot) (named : Entries) : Snapshot :=
  fun field => (named.lookup field.name).getD (base field)

/-- Merge entries into a snapshot of any values. -/
def merge (base : Snapshot) (entries : Entries) : Except SettingsError Snapshot :=
  entries.accept.map base.replace

/-- Every field holds the value that is supplied for it, or what it held before. -/
structure Replaced (base : Snapshot) (entries : Entries) (merged : Snapshot) : Prop where
  supplied : ∀ field value, entries.Supplies field value → merged field = value
  kept : ∀ field, (∀ value, ¬entries.Supplies field value) → merged field = base field

theorem replace_eq_iff (distinct : entries.names.Nodup) :
    base.replace (entries.map Entries.named) = merged ↔ base.Replaced entries merged := by
  constructor
  · rintro rfl
    constructor
    · intro field value supplied
      rw [replace, (Entries.lookup_map_named_iff distinct).mpr supplied, Option.getD_some]
    · intro field none
      have absent : (entries.map Entries.named).lookup field.name = Option.none := by
        apply Option.eq_none_iff_forall_ne_some.mpr
        intro value found
        exact none value ((Entries.lookup_map_named_iff distinct).mp found)
      rw [replace, absent, Option.getD_none]
  · intro replaced
    funext field
    unfold replace
    cases found : (entries.map Entries.named).lookup field.name with
    | some value =>
        rw [replaced.supplied field value ((Entries.lookup_map_named_iff distinct).mp found),
          Option.getD_some]
    | none =>
        rw [replaced.kept field, Option.getD_none]
        intro value supplied
        rw [(Entries.lookup_map_named_iff distinct).mpr supplied] at found
        contradiction

theorem merge_eq_ok_iff :
    base.merge entries = .ok merged ↔ entries.Acceptable ∧ base.Replaced entries merged := by
  simp only [merge, map_eq_ok_iff, Entries.accept_eq_ok_iff]
  constructor
  · rintro ⟨_, ⟨acceptable, rfl⟩, replaced⟩
    exact ⟨acceptable, (replace_eq_iff acceptable.distinct).mp replaced⟩
  · rintro ⟨acceptable, replaced⟩
    exact ⟨_, ⟨acceptable, rfl⟩, (replace_eq_iff acceptable.distinct).mpr replaced⟩

theorem merge_eq_error_iff : base.merge entries = .error error ↔ entries.Refused error := by
  rw [merge, map_eq_error_iff, Entries.accept_eq_error_iff]

end Snapshot

/-- Settings are merged into as the snapshot of their values is. -/
theorem Settings.map_snapshot_merge (settings : Settings) (entries : Entries) :
    (settings.merge entries).map Settings.snapshot = settings.snapshot.merge entries := by
  rw [merge_eq_map_accept, Snapshot.merge]
  cases accepted : entries.accept with
  | error error => rfl
  | ok named =>
      obtain ⟨acceptable, rfl⟩ := Entries.accept_eq_ok_iff.mp accepted
      have distinct : ((entries.map Entries.named).map Prod.fst).Nodup := by
        rw [Entries.map_fst_map_named]
        exact acceptable.distinct
      have checked : ∀ field value, (Field.name field, value) ∈ entries.map Entries.named →
          field.check value = .ok () := by
        intro field value member
        exact Field.check_eq_ok_iff.mpr
          (acceptable.accepted field value (Entries.mem_map_named_iff.mp member))
      exact congrArg Except.ok (funext (get_store distinct checked settings))

end Typeset
