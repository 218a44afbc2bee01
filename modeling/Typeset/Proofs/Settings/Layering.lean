import Typeset.Proofs.Settings.Spelling

/-!
# Layers of entries

Entries are merged in layers, each over what the earlier ones made.  Main statement: layers that
are merged one after the other make what one merge makes of the last value for each field, and
two layers that name no common field may be swapped.
-/

namespace Typeset

namespace Entries

variable {layers : List Entries} {layer combined : Entries} {field : Field} {value : Value}

/-! ## The last layer that supplies a value -/

/-- The last layer that supplies a value for a field supplies this one. -/
def LastSupplies (layers : List Entries) (field : Field) (value : Value) : Prop :=
  ∃ before layer after, layers = before ++ layer :: after ∧ layer.Supplies field value ∧
    ∀ later ∈ after, ∀ other, ¬later.Supplies field other

theorem not_lastSupplies_nil : ¬LastSupplies [] field value := by
  rintro ⟨before, layer, after, split, -⟩
  cases before <;> cases split

/-- The first layer counts when no later one supplies a value. -/
theorem lastSupplies_cons_iff :
    LastSupplies (layer :: layers) field value ↔
      LastSupplies layers field value ∨
        layer.Supplies field value ∧ ∀ later ∈ layers, ∀ other, ¬later.Supplies field other :=
  exists_last_cons_iff

theorem LastSupplies.exists_supplies (last : LastSupplies layers field value) :
    ∃ layer ∈ layers, layer.Supplies field value := by
  obtain ⟨before, layer, after, rfl, supplied, -⟩ := last
  exact ⟨layer, by simp, supplied⟩

/-- If some layer supplies a value for a field, one of them is the last. -/
theorem exists_lastSupplies_iff :
    (∃ value, LastSupplies layers field value) ↔
      ∃ layer ∈ layers, ∃ value, layer.Supplies field value := by
  constructor
  · rintro ⟨value, last⟩
    obtain ⟨layer, member, supplied⟩ := last.exists_supplies
    exact ⟨layer, member, value, supplied⟩
  · induction layers with
    | nil => simp
    | cons first layers ih =>
        intro supplied
        by_cases later : ∃ layer ∈ layers, ∃ value, layer.Supplies field value
        · obtain ⟨value, last⟩ := ih later
          exact ⟨value, lastSupplies_cons_iff.mpr (.inl last)⟩
        · obtain ⟨layer, member, value, supplied⟩ := supplied
          rcases List.mem_cons.mp member with rfl | member
          · refine ⟨value, lastSupplies_cons_iff.mpr (.inr ⟨supplied, ?_⟩)⟩
            exact fun other otherMember otherValue otherSupplied =>
              later ⟨other, otherMember, otherValue, otherSupplied⟩
          · exact absurd ⟨layer, member, value, supplied⟩ later

/-! ## One layer for all -/

/-- Entries that stand for layers: under different names of fields, each with the last value that
the layers supply for it. -/
structure StandsFor (combined : Entries) (layers : List Entries) : Prop where
  distinct : combined.names.Nodup
  known : ∀ entry ∈ combined, IsKnown entry.1
  supplies : ∀ field value, combined.Supplies field value ↔ LastSupplies layers field value

/-- What stands for acceptable layers can be stored. -/
theorem StandsFor.acceptable (standsFor : combined.StandsFor layers)
    (acceptable : ∀ layer ∈ layers, layer.Acceptable) : combined.Acceptable where
  distinct := standsFor.distinct
  known := standsFor.known
  accepted field value supplied := by
    obtain ⟨layer, member, supplied⟩ :=
      ((standsFor.supplies field value).mp supplied).exists_supplies
    exact (acceptable layer member).accepted field value supplied

/-- The value that the last of the layers supplies for a field. -/
def last? (field : Field) : List Entries → Option Value
  | [] => none
  | layer :: layers => (last? field layers).or ((layer.map named).lookup field.name)

/-- The last values for the fields, in field order. -/
def combine (layers : List Entries) : Entries :=
  Field.all.filterMap fun field => (last? field layers).map fun value => (field.name, value)

theorem last?_eq_some_iff (distinct : ∀ layer ∈ layers, layer.names.Nodup) :
    last? field layers = some value ↔ LastSupplies layers field value := by
  induction layers generalizing value with
  | nil => simp [last?, not_lastSupplies_nil]
  | cons layer layers ih =>
      obtain ⟨distinctLayer, distinct⟩ := List.forall_mem_cons.mp distinct
      have none : last? field layers = none ↔
          ∀ later ∈ layers, ∀ other, ¬later.Supplies field other := by
        rw [Option.eq_none_iff_forall_ne_some]
        simp only [ne_eq, ih distinct]
        rw [← not_exists, exists_lastSupplies_iff]
        simp only [not_exists, not_and]
      rw [last?, Option.or_eq_some_iff, lookup_map_named_iff distinctLayer, ih distinct, none,
        lastSupplies_cons_iff, and_comm (a := layer.Supplies field value)]

theorem mem_combine_iff {key : String} :
    (key, value) ∈ combine layers ↔
      ∃ field, last? field layers = some value ∧ field.name = key := by
  simp only [combine, List.mem_filterMap, Option.map_eq_some_iff, Prod.mk.injEq, Field.mem_all,
    true_and]
  constructor
  · rintro ⟨field, _, last, rfl, rfl⟩
    exact ⟨field, last, rfl⟩
  · rintro ⟨field, last, rfl⟩
    exact ⟨field, value, last, rfl, rfl⟩

theorem names_combine (layers : List Entries) :
    (combine layers).names =
      Field.all.filterMap fun field => (last? field layers).map fun _ => field.name := by
  simp only [Entries.names, combine, List.map_filterMap, Option.map_map, Function.comp_def,
    resolveKey_name]

theorem standsFor_combine (distinct : ∀ layer ∈ layers, layer.names.Nodup) :
    (combine layers).StandsFor layers where
  distinct := by
    rw [names_combine]
    refine List.Nodup.filterMap ?_ (by decide)
    intro field other name found otherFound
    obtain ⟨_, -, rfl⟩ := Option.map_eq_some_iff.mp found
    obtain ⟨_, -, same⟩ := Option.map_eq_some_iff.mp otherFound
    exact (Field.name_injective same).symm
  known := by
    rintro ⟨key, value⟩ member
    obtain ⟨field, -, rfl⟩ := mem_combine_iff.mp member
    exact ⟨field, resolveKey_name field⟩
  supplies field value := by
    rw [← last?_eq_some_iff distinct]
    constructor
    · rintro ⟨key, member, resolved⟩
      obtain ⟨other, last, rfl⟩ := mem_combine_iff.mp member
      rw [resolveKey_name] at resolved
      cases Field.name_injective resolved
      exact last
    · intro last
      exact ⟨field.name, mem_combine_iff.mpr ⟨field, last, rfl⟩, resolveKey_name field⟩

/-- Entries that supply values for different fields. -/
def Apart (first second : Entries) : Prop :=
  ∀ field value other, first.Supplies field value → ¬second.Supplies field other

/-- Of two layers that are apart each one is the last for its fields. -/
theorem Apart.lastSupplies_iff {first second : Entries} (apart : first.Apart second) :
    LastSupplies [first, second] field value ↔
      first.Supplies field value ∨ second.Supplies field value := by
  rw [lastSupplies_cons_iff, lastSupplies_cons_iff]
  simp only [not_lastSupplies_nil, false_or, List.mem_singleton, forall_eq, List.not_mem_nil,
    false_implies, implies_true, and_true]
  constructor
  · rintro (supplied | ⟨supplied, -⟩)
    · exact .inr supplied
    · exact .inl supplied
  · rintro (supplied | supplied)
    · exact .inr ⟨supplied, fun other => apart field value other supplied⟩
    · exact .inl supplied

theorem apart_of_names {first second : Entries}
    (different : ∀ name ∈ first.names, name ∉ second.names) : first.Apart second := by
  rintro field value other ⟨key, member, resolved⟩ ⟨otherKey, otherMember, otherResolved⟩
  refine different field.name ?_ ?_
  · exact List.mem_map.mpr ⟨(key, value), member, resolved⟩
  · exact List.mem_map.mpr ⟨(otherKey, other), otherMember, otherResolved⟩

theorem Apart.symm {first second : Entries} (apart : first.Apart second) :
    second.Apart first :=
  fun field value other supplied otherSupplied => apart field other value otherSupplied supplied

end Entries

/-! ## Merging layers -/

namespace Snapshot

variable {base merged : Snapshot} {layers : List Entries} {combined : Entries}

/-- Merge layers one after the other. -/
def mergeAll (base : Snapshot) (layers : List Entries) : Except SettingsError Snapshot :=
  layers.foldlM merge base

/-- Every field holds the value of the last layer that supplies one for it, or what it held
before. -/
structure Layered (base : Snapshot) (layers : List Entries) (merged : Snapshot) : Prop where
  supplied : ∀ field value, Entries.LastSupplies layers field value → merged field = value
  kept : ∀ field, (∀ value, ¬Entries.LastSupplies layers field value) → merged field = base field

theorem mergeAll_cons (base : Snapshot) (layer : Entries) (layers : List Entries) :
    base.mergeAll (layer :: layers) = base.merge layer >>= fun next => next.mergeAll layers :=
  List.foldlM_cons ..

/-- Layers are put over what the first of them made. -/
theorem Replaced.layered {next : Snapshot} {layer : Entries} (replaced : base.Replaced layer next)
    (layered : next.Layered layers merged) : base.Layered (layer :: layers) merged := by
  constructor
  · intro field value last
    rcases Entries.lastSupplies_cons_iff.mp last with last | ⟨supplied, none⟩
    · exact layered.supplied field value last
    · rw [layered.kept field, replaced.supplied field value supplied]
      intro other last
      obtain ⟨later, member, supplied⟩ := last.exists_supplies
      exact none later member other supplied
  · intro field absent
    have later : ∀ value, ¬Entries.LastSupplies layers field value :=
      fun value last => absent value (Entries.lastSupplies_cons_iff.mpr (.inl last))
    rw [layered.kept field later, replaced.kept field]
    intro value supplied
    refine absent value (Entries.lastSupplies_cons_iff.mpr (.inr ⟨supplied, ?_⟩))
    intro other member otherValue otherSupplied
    obtain ⟨last, isLast⟩ :=
      Entries.exists_lastSupplies_iff.mpr ⟨other, member, otherValue, otherSupplied⟩
    exact later last isLast

theorem Layered.unique {other : Snapshot} (layered : base.Layered layers merged)
    (otherLayered : base.Layered layers other) : merged = other := by
  funext field
  by_cases last : ∃ value, Entries.LastSupplies layers field value
  · obtain ⟨value, last⟩ := last
    rw [layered.supplied field value last, otherLayered.supplied field value last]
  · have absent := not_exists.mp last
    rw [layered.kept field absent, otherLayered.kept field absent]

theorem layered_of_mergeAll (made : base.mergeAll layers = .ok merged) :
    (∀ layer ∈ layers, layer.Acceptable) ∧ base.Layered layers merged := by
  induction layers generalizing base with
  | nil =>
      cases made
      exact ⟨by simp, fun field value last => absurd last Entries.not_lastSupplies_nil,
        fun field _ => rfl⟩
  | cons layer layers ih =>
      rw [mergeAll_cons] at made
      obtain ⟨next, first, rest⟩ := bind_eq_ok_iff.mp made
      obtain ⟨acceptableLayer, replaced⟩ := merge_eq_ok_iff.mp first
      obtain ⟨acceptable, layered⟩ := ih rest
      exact ⟨List.forall_mem_cons.mpr ⟨acceptableLayer, acceptable⟩, replaced.layered layered⟩

/-- Acceptable entries are merged into every snapshot. -/
theorem exists_merge_eq_ok {entries : Entries} (acceptable : entries.Acceptable)
    (base : Snapshot) : ∃ merged, base.merge entries = .ok merged :=
  ⟨_, map_eq_ok_iff.mpr ⟨_, Entries.accept_eq_ok_iff.mpr ⟨acceptable, rfl⟩, rfl⟩⟩

theorem exists_mergeAll_eq_ok (acceptable : ∀ layer ∈ layers, layer.Acceptable)
    (base : Snapshot) : ∃ merged, base.mergeAll layers = .ok merged := by
  induction layers generalizing base with
  | nil => exact ⟨base, rfl⟩
  | cons layer layers ih =>
      obtain ⟨acceptableLayer, acceptable⟩ := List.forall_mem_cons.mp acceptable
      obtain ⟨next, first⟩ := exists_merge_eq_ok acceptableLayer base
      obtain ⟨merged, rest⟩ := ih acceptable next
      refine ⟨merged, ?_⟩
      rw [mergeAll_cons]
      exact bind_eq_ok_iff.mpr ⟨next, first, rest⟩

/-- Layers are merged when each of them can be stored, whatever is below it. -/
theorem mergeAll_eq_ok_iff :
    base.mergeAll layers = .ok merged ↔
      (∀ layer ∈ layers, layer.Acceptable) ∧ base.Layered layers merged := by
  constructor
  · exact layered_of_mergeAll
  · rintro ⟨acceptable, layered⟩
    obtain ⟨other, made⟩ := exists_mergeAll_eq_ok acceptable base
    rw [made, layered.unique (layered_of_mergeAll made).2]

/-- What layers make, the entries that stand for them make at once. -/
theorem merge_eq_of_mergeAll (made : base.mergeAll layers = .ok merged)
    (standsFor : combined.StandsFor layers) : base.merge combined = .ok merged := by
  obtain ⟨acceptable, layered⟩ := mergeAll_eq_ok_iff.mp made
  refine merge_eq_ok_iff.mpr ⟨standsFor.acceptable acceptable, ?_, ?_⟩
  · intro field value supplied
    exact layered.supplied field value ((standsFor.supplies field value).mp supplied)
  · intro field absent
    refine layered.kept field fun value last => ?_
    exact absent value ((standsFor.supplies field value).mpr last)

theorem mergeAll_swap {first second : Entries} (apart : first.Apart second)
    (made : base.mergeAll [first, second] = .ok merged) :
    base.mergeAll [second, first] = .ok merged := by
  obtain ⟨acceptable, layered⟩ := mergeAll_eq_ok_iff.mp made
  have same : ∀ field value, Entries.LastSupplies [second, first] field value ↔
      Entries.LastSupplies [first, second] field value := by
    intro field value
    rw [apart.symm.lastSupplies_iff, apart.lastSupplies_iff, or_comm]
  refine mergeAll_eq_ok_iff.mpr ⟨?_, ?_, ?_⟩
  · intro layer member
    exact acceptable layer ((List.Perm.swap first second []).mem_iff.mp member)
  · intro field value last
    exact layered.supplied field value ((same field value).mp last)
  · intro field absent
    exact layered.kept field fun value last => absent value ((same field value).mpr last)

/-- Layers that are apart make the same in both orders. -/
theorem mergeAll_swap_iff {first second : Entries} (apart : first.Apart second) :
    base.mergeAll [first, second] = .ok merged ↔ base.mergeAll [second, first] = .ok merged :=
  ⟨mergeAll_swap apart, mergeAll_swap apart.symm⟩

end Snapshot

namespace Settings

variable {settings merged : Settings} {layers : List Entries} {entries combined : Entries}

/-- Merge layers one after the other. -/
def mergeAll (settings : Settings) (layers : List Entries) : Except SettingsError Settings :=
  layers.foldlM merge settings

theorem mergeAll_cons (settings : Settings) (layer : Entries) (layers : List Entries) :
    settings.mergeAll (layer :: layers) =
      settings.merge layer >>= fun next => next.mergeAll layers :=
  List.foldlM_cons ..

/-- Layers are merged into settings as into the snapshot of their values. -/
theorem map_snapshot_mergeAll (settings : Settings) (layers : List Entries) :
    (settings.mergeAll layers).map snapshot = settings.snapshot.mergeAll layers := by
  induction layers generalizing settings with
  | nil => rfl
  | cons layer layers ih =>
      rw [mergeAll_cons, Snapshot.mergeAll_cons, ← map_snapshot_merge]
      cases settings.merge layer with
      | error error => rfl
      | ok next => exact ih next

theorem snapshot_merge_eq_ok_iff :
    settings.snapshot.merge entries = .ok merged.snapshot ↔
      settings.merge entries = .ok merged := by
  rw [← map_snapshot_merge, map_eq_ok_iff]
  simp only [snapshot_injective.eq_iff, exists_eq_right]

theorem snapshot_mergeAll_eq_ok_iff :
    settings.snapshot.mergeAll layers = .ok merged.snapshot ↔
      settings.mergeAll layers = .ok merged := by
  rw [← map_snapshot_mergeAll, map_eq_ok_iff]
  simp only [snapshot_injective.eq_iff, exists_eq_right]

/-- Whatever is merged into, typed settings or a snapshot of any values: when layers are merged
one after the other, there are entries that give every field the last value for it, and all such
entries make the same at once; and two layers that name no common field make the same in both
orders, or are refused in both. -/
theorem layers_compose :
    (∀ layers : List Entries,
      (∀ settings merged : Settings, settings.mergeAll layers = .ok merged →
        (Entries.combine layers).StandsFor layers ∧
          ∀ combined : Entries, combined.StandsFor layers → settings.merge combined = .ok merged) ∧
      ∀ base merged : Snapshot, base.mergeAll layers = .ok merged →
        (Entries.combine layers).StandsFor layers ∧
          ∀ combined : Entries, combined.StandsFor layers → base.merge combined = .ok merged) ∧
    ∀ first second : Entries, first.Apart second →
      (∀ settings merged : Settings, settings.mergeAll [first, second] = .ok merged ↔
        settings.mergeAll [second, first] = .ok merged) ∧
      ∀ base merged : Snapshot, base.mergeAll [first, second] = .ok merged ↔
        base.mergeAll [second, first] = .ok merged := by
  have snapshots : ∀ (layers : List Entries) (base merged : Snapshot),
      base.mergeAll layers = .ok merged → (Entries.combine layers).StandsFor layers ∧
        ∀ combined : Entries, combined.StandsFor layers → base.merge combined = .ok merged := by
    intro layers base merged made
    refine ⟨Entries.standsFor_combine ?_, fun _ => Snapshot.merge_eq_of_mergeAll made⟩
    exact fun layer member => ((Snapshot.mergeAll_eq_ok_iff.mp made).1 layer member).distinct
  refine ⟨fun layers => ⟨?_, snapshots layers⟩, fun first second apart => ⟨?_, ?_⟩⟩
  · intro settings merged made
    obtain ⟨combine, merges⟩ := snapshots layers _ _ (snapshot_mergeAll_eq_ok_iff.mpr made)
    refine ⟨combine, fun combined standsFor => ?_⟩
    exact snapshot_merge_eq_ok_iff.mp (merges combined standsFor)
  · intro settings merged
    rw [← snapshot_mergeAll_eq_ok_iff, ← snapshot_mergeAll_eq_ok_iff]
    exact Snapshot.mergeAll_swap_iff apart
  · exact fun base merged => Snapshot.mergeAll_swap_iff apart

/-- Of a size in two spellings the later layer counts, and a layer with a colour may come before
or after one with a height. -/
theorem layers_compose_sizes :
    let layers : List Entries :=
      [[("fontSize", .number (.int 14)), ("boldColor", .text "red")], [],
        [("font_size", .number (.int 18))]]
    let height : Entries := [("lineHeight", .number (.int 2))]
    let colour : Entries := [("text_color", .text "blue")]
    ({} : Settings).mergeAll layers = .ok { boldColor := "red", fontSize := .int 18 } ∧
      ({} : Settings).merge (Entries.combine layers) =
        .ok { boldColor := "red", fontSize := .int 18 } ∧
      height.Apart colour ∧
      ({} : Settings).mergeAll [colour, height] =
        .ok { textColor := "blue", lineHeight := .int 2 } := by
  intro layers height colour
  have made : ({} : Settings).mergeAll layers =
      .ok { boldColor := "red", fontSize := .int 18 } := rfl
  have apart : height.Apart colour := Entries.apart_of_names (by decide)
  have inOrder : ({} : Settings).mergeAll [height, colour] =
      .ok { textColor := "blue", lineHeight := .int 2 } := rfl
  obtain ⟨standsFor, merges⟩ := (layers_compose.1 layers).1 {} _ made
  exact ⟨made, merges _ standsFor, apart,
    ((layers_compose.2 height colour apart).1 {} _).mp inOrder⟩

end Settings

end Typeset
