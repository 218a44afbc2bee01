import Typeset.Settings.Change
import Typeset.Proofs.Settings.Checked
import Typeset.Proofs.Settings.Outcome

/-!
# Runs of changes of settings

What a change gives for a key is what its keyword changes give for it, else what its entries
do.  Main statement: for a snapshot of any values and any run of changes, a change that is
refused leaves the snapshot as it was, and one that is made replaces the fields that it gives
values for and nothing else; and well-typed snapshots stay well-typed.
-/

namespace Typeset

namespace Entries

/-! ## Entries and changes of the same keys -/

/-- The keys of entries. -/
def keys (entries : Entries) : List String :=
  entries.map Prod.fst

variable {entries changes : Entries} {key other : String} {value otherValue : Value}

theorem put_cons_self (oldValue : Value) :
    put ((key, oldValue) :: entries) key value = (key, value) :: entries := by
  simp [put]

theorem put_cons_of_ne (different : other ≠ key) :
    put ((other, otherValue) :: entries) key value =
      (other, otherValue) :: entries.put key value := by
  simp [put, different]

/-- A stored entry replaces that of its key. -/
theorem mem_put_iff (distinct : entries.keys.Nodup) :
    (other, otherValue) ∈ entries.put key value ↔
      (other = key ∧ otherValue = value) ∨ (other, otherValue) ∈ entries ∧ other ≠ key := by
  induction entries with
  | nil => simp [put]
  | cons entry entries ih =>
      rcases entry with ⟨oldKey, oldValue⟩
      obtain ⟨unseen, distinct⟩ := List.nodup_cons.mp distinct
      by_cases same : oldKey = key
      · subst same
        have stays : (other, otherValue) ∈ entries → other ≠ oldKey := by
          rintro member rfl
          exact unseen (List.mem_map.mpr ⟨_, member, rfl⟩)
        rw [put_cons_self, List.mem_cons, List.mem_cons, Prod.mk.injEq, Prod.mk.injEq]
        grind
      · rw [put_cons_of_ne same, List.mem_cons, List.mem_cons, ih distinct, Prod.mk.injEq]
        grind

theorem mem_keys_put_iff :
    other ∈ (entries.put key value).keys ↔ other = key ∨ other ∈ entries.keys := by
  induction entries with
  | nil => simp [put, keys]
  | cons entry entries ih =>
      rcases entry with ⟨oldKey, oldValue⟩
      by_cases same : oldKey = key
      · subst same
        simp [put_cons_self, keys]
      · simp only [put_cons_of_ne same, keys, List.map_cons, List.mem_cons] at ih ⊢
        rw [ih, or_left_comm]

theorem nodup_keys_put (distinct : entries.keys.Nodup) : (entries.put key value).keys.Nodup := by
  induction entries with
  | nil => simp [put, keys]
  | cons entry entries ih =>
      rcases entry with ⟨oldKey, oldValue⟩
      by_cases same : oldKey = key
      · subst same
        rw [put_cons_self]
        exact distinct
      · obtain ⟨unseen, distinct⟩ := List.nodup_cons.mp distinct
        rw [put_cons_of_ne same]
        refine List.nodup_cons.mpr ⟨?_, ih distinct⟩
        intro member
        rcases mem_keys_put_iff.mp member with equal | earlier
        · exact same equal
        · exact unseen earlier

/-- What entries and keyword changes give for a key. -/
def Gives (entries changes : Entries) (key : String) (value : Value) : Prop :=
  (key, value) ∈ changes ∨ (key, value) ∈ entries ∧ key ∉ changes.keys

theorem putAll_cons (entries : Entries) (change : String × Value) (changes : Entries) :
    entries.putAll (change :: changes) = (entries.put change.1 change.2).putAll changes :=
  rfl

/-- The last value that is given for a key. -/
def LastGives (entries : Entries) (key : String) (value : Value) : Prop :=
  ∃ before after : Entries, entries = before ++ (key, value) :: after ∧ key ∉ after.keys

/-- The first value counts when its key does not come again. -/
theorem lastGives_cons_iff :
    LastGives ((key, value) :: entries) other otherValue ↔
      entries.LastGives other otherValue ∨
        (other = key ∧ otherValue = value) ∧ other ∉ entries.keys := by
  constructor
  · rintro ⟨before, after, split, last⟩
    cases before with
    | nil =>
        cases split
        exact .inr ⟨⟨rfl, rfl⟩, last⟩
    | cons first before =>
        cases split
        exact .inl ⟨before, after, rfl, last⟩
  · rintro (⟨before, after, rfl, last⟩ | ⟨⟨rfl, rfl⟩, last⟩)
    · exact ⟨(key, value) :: before, after, rfl, last⟩
    · exact ⟨[], entries, rfl, last⟩

theorem LastGives.mem (last : entries.LastGives key value) : (key, value) ∈ entries := by
  obtain ⟨before, after, rfl, -⟩ := last
  simp

/-- With different keys every value is the last for its key. -/
theorem lastGives_iff_mem (distinct : entries.keys.Nodup) :
    entries.LastGives key value ↔ (key, value) ∈ entries := by
  refine ⟨LastGives.mem, fun member => ?_⟩
  obtain ⟨before, after, rfl⟩ := List.append_of_mem member
  refine ⟨before, after, rfl, ?_⟩
  rw [keys, List.map_append, List.map_cons] at distinct
  exact (List.nodup_cons.mp (List.nodup_append.mp distinct).2.1).1

/-- Of the changes to a key the last one is stored, and replaces the entry of that key. -/
theorem mem_putAll_iff_lastGives (distinct : entries.keys.Nodup) :
    (key, value) ∈ entries.putAll changes ↔
      changes.LastGives key value ∨ (key, value) ∈ entries ∧ key ∉ changes.keys := by
  induction changes generalizing entries with
  | nil => simp [putAll, LastGives, keys]
  | cons change changes ih =>
      rcases change with ⟨changed, newValue⟩
      rw [putAll_cons, ih (nodup_keys_put distinct), mem_put_iff distinct, lastGives_cons_iff]
      simp only [keys, List.map_cons, List.mem_cons]
      grind

/-- Stored changes replace the entries of the same keys. -/
theorem mem_putAll_iff (distinct : entries.keys.Nodup) (distinctChanges : changes.keys.Nodup) :
    (key, value) ∈ entries.putAll changes ↔ entries.Gives changes key value := by
  rw [mem_putAll_iff_lastGives distinct, lastGives_iff_mem distinctChanges, Gives]

theorem nodup_keys_putAll (distinct : entries.keys.Nodup) :
    (entries.putAll changes).keys.Nodup := by
  induction changes generalizing entries with
  | nil => exact distinct
  | cons change changes ih => exact ih (nodup_keys_put distinct)

theorem supplies_putAll_iff (distinct : entries.keys.Nodup)
    (distinctChanges : changes.keys.Nodup) {field : Field} :
    (entries.putAll changes).Supplies field value ↔
      ∃ key, entries.Gives changes key value ∧ resolveKey key = field.name := by
  simp only [Supplies, mem_putAll_iff distinct distinctChanges]

/-- A key that is given a value stands among the keys. -/
theorem mem_keys_putAll_iff (entries changes : Entries) {key : String} :
    key ∈ (entries.putAll changes).keys ↔ key ∈ entries.keys ∨ key ∈ changes.keys := by
  induction changes generalizing entries with
  | nil => simp [putAll, keys]
  | cons change changes ih =>
      rw [putAll_cons, ih, mem_keys_put_iff]
      simp only [keys, List.map_cons, List.mem_cons]
      rw [or_assoc, or_left_comm]

theorem names_eq_map_keys (entries : Entries) : entries.names = entries.keys.map resolveKey := by
  simp [names, keys, Function.comp_def]

/-- Two spellings of one name give that name twice. -/
theorem not_nodup_names {entries : Entries} {key other : String} (member : key ∈ entries.keys)
    (otherMember : other ∈ entries.keys) (different : key ≠ other)
    (same : resolveKey key = resolveKey other) : ¬entries.names.Nodup := by
  rw [names_eq_map_keys]
  intro distinct
  exact different (List.inj_on_of_nodup_map distinct member otherMember same)

end Entries

/-- Entries with a name that is given twice are refused for one. -/
theorem Snapshot.exists_merge_eq_repeated {base : Snapshot} {entries : Entries}
    (twice : ¬entries.names.Nodup) : ∃ name, base.merge entries = .error (.repeated name) := by
  cases merged : base.merge entries with
  | ok next => exact absurd (Snapshot.merge_eq_ok_iff.mp merged).1.distinct twice
  | error error =>
      cases Snapshot.merge_eq_error_iff.mp merged with
      | repeated split distinct again => exact ⟨_, rfl⟩
      | invalid distinct order accepted supplied refuses => exact absurd distinct twice
      | unexpected distinct accepted split known unknown => exact absurd distinct twice

/-! ## Single changes -/

/-- A field holds a value of its kind: a text or a finite number. -/
inductive Field.Holds (field : Field) : Value → Prop where
  | text (colour : field.isLength = false) (text : String) : Holds field (.text text)
  | number (length : field.isLength = true) {number : Number} {v : Rat}
      (finite : number.value? = some v) : Holds field (.number number)

theorem Field.Accepts.holds {field : Field} {value : Value} (accepts : field.Accepts value) :
    field.Holds value := by
  cases accepts with
  | text colour text => exact .text colour text
  | double length x => exact .number length rfl
  | int length small => exact .number length rfl

/-- The fields that show the accent colour. -/
def Field.IsAccent (field : Field) : Prop :=
  field = .headingColor ∨ field = .boldColor

/-- Every field of a snapshot holds a value of its kind. -/
def Snapshot.WellTyped (snapshot : Snapshot) : Prop :=
  ∀ field : Field, field.Holds (snapshot field)

/-- Checked settings hold values of their kinds. -/
theorem Settings.Checked.wellTyped {settings : Settings} (checked : settings.Checked) :
    settings.snapshot.WellTyped :=
  fun field => (Field.check_eq_ok_iff.mp (checked field)).holds

namespace Snapshot

open Settings (Change)

/-- The snapshot that a change makes of any values. -/
def apply (current : Snapshot) : Change → Except SettingsError Snapshot
  | .update entries changes => current.merge (entries.putAll changes)
  | .applyAccent colour =>
      current.merge (Entries.putAll [] [("heading_color", colour), ("bold_color", colour)])

/-- Make changes one after the other, where a change that is refused leaves the snapshot as it
was. -/
def run (current : Snapshot) (changes : List Change) : Snapshot :=
  changes.foldl (fun current change => (current.apply change).toOption.getD current) current

/-- Every field of the next snapshot holds the value that an update gives for a key of it, or
what it held before. -/
structure Updated (current : Snapshot) (entries changes : Entries) (next : Snapshot) : Prop where
  given : ∀ (field : Field) (key : String) (value : Value), entries.Gives changes key value →
    Entries.resolveKey key = field.name → next field = value
  kept : ∀ field : Field, (∀ key value, entries.Gives changes key value →
    Entries.resolveKey key ≠ field.name) → next field = current field

variable {current next : Snapshot} {entries changes : Entries} {colour : Value}

theorem updated_of_apply (distinct : entries.keys.Nodup) (distinctChanges : changes.keys.Nodup)
    (made : current.apply (.update entries changes) = .ok next) :
    current.Updated entries changes next := by
  have replaced := (merge_eq_ok_iff.mp made).2
  constructor
  · intro field key value gives resolved
    exact replaced.supplied field value
      ((Entries.supplies_putAll_iff distinct distinctChanges).mpr ⟨key, gives, resolved⟩)
  · intro field absent
    apply replaced.kept
    intro value supplied
    obtain ⟨key, gives, resolved⟩ :=
      (Entries.supplies_putAll_iff distinct distinctChanges).mp supplied
    exact absent key value gives resolved

/-- An update that reaches a field through two spellings is refused. -/
theorem exists_apply_eq_repeated {key other : String} {field : Field}
    (member : key ∈ entries.keys ∨ key ∈ changes.keys)
    (otherMember : other ∈ entries.keys ∨ other ∈ changes.keys) (different : key ≠ other)
    (resolved : Entries.resolveKey key = field.name)
    (otherResolved : Entries.resolveKey other = field.name) :
    ∃ name, current.apply (.update entries changes) = .error (.repeated name) := by
  apply exists_merge_eq_repeated
  exact Entries.not_nodup_names ((Entries.mem_keys_putAll_iff entries changes).mpr member)
    ((Entries.mem_keys_putAll_iff entries changes).mpr otherMember) different
    (resolved.trans otherResolved.symm)

theorem supplies_accent_iff {field : Field} {value : Value} :
    Entries.Supplies [("heading_color", colour), ("bold_color", colour)] field value ↔
      field.IsAccent ∧ value = colour := by
  have heading := Entries.resolveKey_name .headingColor
  have bold := Entries.resolveKey_name .boldColor
  constructor
  · rintro ⟨key, member, resolved⟩
    simp only [List.mem_cons, Prod.mk.injEq, List.not_mem_nil, or_false] at member
    rcases member with ⟨rfl, rfl⟩ | ⟨rfl, rfl⟩
    · exact ⟨.inl (Field.name_injective (resolved.symm.trans heading)), rfl⟩
    · exact ⟨.inr (Field.name_injective (resolved.symm.trans bold)), rfl⟩
  · rintro ⟨rfl | rfl, rfl⟩
    · exact ⟨"heading_color", by simp, heading⟩
    · exact ⟨"bold_color", by simp, bold⟩

theorem acceptable_accent_iff :
    Entries.Acceptable [("heading_color", colour), ("bold_color", colour)] ↔
      ∃ text, colour = .text text := by
  constructor
  · intro acceptable
    have accepts := acceptable.accepted .headingColor colour
      (supplies_accent_iff.mpr ⟨.inl rfl, rfl⟩)
    cases accepts with
    | text _ text => exact ⟨text, rfl⟩
    | double length x => contradiction
    | int length small => contradiction
  · rintro ⟨text, rfl⟩
    refine ⟨?_, ?_, ?_⟩
    · have names : Entries.names [("heading_color", .text text), ("bold_color", .text text)] =
          [Field.name .headingColor, Field.name .boldColor] := rfl
      rw [names]
      decide
    · intro field value supplied
      obtain ⟨rfl | rfl, rfl⟩ := supplies_accent_iff.mp supplied
      · exact .text rfl text
      · exact .text rfl text
    · intro entry member
      simp only [List.mem_cons, List.not_mem_nil, or_false] at member
      rcases member with rfl | rfl
      · exact ⟨.headingColor, Entries.resolveKey_name .headingColor⟩
      · exact ⟨.boldColor, Entries.resolveKey_name .boldColor⟩

/-- A new accent colour is a text, and replaces the colours of headings and bold text. -/
theorem apply_applyAccent_eq_ok_iff :
    current.apply (.applyAccent colour) = .ok next ↔
      (∃ text, colour = .text text) ∧ (∀ field : Field, field.IsAccent → next field = colour) ∧
        ∀ field : Field, ¬field.IsAccent → next field = current field := by
  rw [← acceptable_accent_iff]
  refine merge_eq_ok_iff.trans (and_congr_right fun _ => ?_)
  constructor
  · intro replaced
    refine ⟨fun field accent => replaced.supplied field colour ?_, fun field other => ?_⟩
    · exact supplies_accent_iff.mpr ⟨accent, rfl⟩
    · exact replaced.kept field fun value supplied => other (supplies_accent_iff.mp supplied).1
  · rintro ⟨accents, others⟩
    refine ⟨fun field value supplied => ?_, fun field absent => others field ?_⟩
    · obtain ⟨accent, rfl⟩ := supplies_accent_iff.mp supplied
      exact accents field accent
    · exact fun accent => absent colour (supplies_accent_iff.mpr ⟨accent, rfl⟩)

/-- A change keeps a snapshot well-typed. -/
theorem WellTyped.apply (wellTyped : current.WellTyped) {change : Change}
    (made : current.apply change = .ok next) : next.WellTyped := by
  have merged : ∃ entries, current.merge entries = .ok next := by
    cases change with
    | update entries changes => exact ⟨_, made⟩
    | applyAccent colour => exact ⟨_, made⟩
  obtain ⟨entries, merged⟩ := merged
  obtain ⟨acceptable, replaced⟩ := merge_eq_ok_iff.mp merged
  intro field
  by_cases supplied : ∃ value, entries.Supplies field value
  · obtain ⟨value, supplied⟩ := supplied
    rw [replaced.supplied field value supplied]
    exact (acceptable.accepted field value supplied).holds
  · rw [replaced.kept field (not_exists.mp supplied)]
    exact wellTyped field

/-! ## Runs -/

theorem run_append_singleton (current : Snapshot) (changes : List Change) (change : Change) :
    current.run (changes ++ [change]) =
      ((current.run changes).apply change).toOption.getD (current.run changes) := by
  rw [run, List.foldl_append]
  rfl

/-- A run keeps a snapshot well-typed. -/
theorem WellTyped.run (wellTyped : current.WellTyped) (changes : List Change) :
    (current.run changes).WellTyped := by
  induction changes generalizing current with
  | nil => exact wellTyped
  | cons change changes ih =>
      cases made : current.apply change with
      | ok next =>
          have first : current.run (change :: changes) = next.run changes := by
            simp [Snapshot.run, made, Except.toOption]
          rw [first]
          exact ih (wellTyped.apply made)
      | error error =>
          have first : current.run (change :: changes) = current.run changes := by
            simp [Snapshot.run, made, Except.toOption]
          rw [first]
          exact ih wellTyped

end Snapshot

namespace Settings

/-- Settings are changed as the snapshot of their values is. -/
theorem map_snapshot_apply (settings : Settings) (change : Change) :
    (settings.apply change).map snapshot = settings.snapshot.apply change := by
  cases change with
  | update entries changes => exact settings.map_snapshot_merge _
  | applyAccent colour => exact settings.map_snapshot_merge _

/-- Settings run as the snapshot of their values does. -/
theorem snapshot_run (settings : Settings) (changes : List Change) :
    (settings.run changes).snapshot = settings.snapshot.run changes := by
  induction changes generalizing settings with
  | nil => rfl
  | cons change changes ih =>
      have step : (settings.change change).2.snapshot =
          (settings.snapshot.apply change).toOption.getD settings.snapshot := by
        rw [← map_snapshot_apply, Settings.change]
        cases settings.apply change <;> rfl
      rw [run, List.foldl_cons, Snapshot.run, List.foldl_cons, ← step]
      exact ih _

end Settings

/-- Whatever a snapshot holds and whatever changes were made: a change that is refused leaves the
snapshot as it was; an update that is made stores what it gives for the fields and nothing else,
and is refused when two of its keys spell one field; a new accent colour replaces those of
headings and bold text and nothing else; and a snapshot that was well-typed still is.  Settings
run as the snapshot of their values does. -/
theorem Snapshot.run_changes (initial : Snapshot) (changes : List Settings.Change) :
    let current := initial.run changes
    (∀ change error, current.apply change = .error error →
      initial.run (changes ++ [change]) = current) ∧
    (∀ change next, current.apply change = .ok next →
      initial.run (changes ++ [change]) = next) ∧
    (∀ (entries keywords : Entries) next, entries.keys.Nodup → keywords.keys.Nodup →
      current.apply (.update entries keywords) = .ok next →
        current.Updated entries keywords next) ∧
    (∀ (entries keywords : Entries) (key other : String) (field : Field),
      key ∈ entries.keys ∨ key ∈ keywords.keys → other ∈ entries.keys ∨ other ∈ keywords.keys →
        key ≠ other → Entries.resolveKey key = field.name →
          Entries.resolveKey other = field.name →
            ∃ name, current.apply (.update entries keywords) = .error (.repeated name)) ∧
    (∀ colour next, current.apply (.applyAccent colour) = .ok next ↔
      (∃ text, colour = .text text) ∧ (∀ field : Field, field.IsAccent → next field = colour) ∧
        ∀ field : Field, ¬field.IsAccent → next field = current field) ∧
    (initial.WellTyped → current.WellTyped) ∧
    ∀ settings : Settings, settings.snapshot = initial →
      (settings.run changes).snapshot = current ∧
        ∀ change, ((settings.run changes).apply change).map Settings.snapshot =
          current.apply change := by
  intro current
  refine ⟨?_, ?_, fun _ _ _ => updated_of_apply, fun _ _ _ _ _ => exists_apply_eq_repeated,
    fun _ _ => apply_applyAccent_eq_ok_iff, fun wellTyped => wellTyped.run changes, ?_⟩
  · intro change error refused
    have refused : (initial.run changes).apply change = .error error := refused
    rw [run_append_singleton, refused]
    rfl
  · intro change next made
    have made : (initial.run changes).apply change = .ok next := made
    rw [run_append_singleton, made]
    rfl
  · rintro settings rfl
    have snapshot := settings.snapshot_run changes
    refine ⟨snapshot, fun change => ?_⟩
    rw [Settings.map_snapshot_apply, snapshot]

/-- After a refused change and a new accent colour, a keyword replaces the entry of its spelling
and collides with that of the other one. -/
theorem Snapshot.run_changes_spellings :
    let current := ({} : Settings).snapshot.run
      [.update [("fontSize", .boolean true)] [], .applyAccent (.text "red")]
    current.WellTyped ∧
      (∃ next, current.apply (.update [("fontSize", .number (.int 15))]
          [("fontSize", .number (.int 18))]) = .ok next ∧
        next .fontSize = .number (.int 18) ∧ next .boldColor = current .boldColor) ∧
      ∃ name, current.apply (.update [("fontSize", .number (.int 15))]
        [("font_size", .number (.int 18))]) = .error (.repeated name) := by
  intro current
  obtain ⟨-, -, updates, repeats, -, wellTyped, -⟩ := run_changes ({} : Settings).snapshot
    [.update [("fontSize", .boolean true)] [], .applyAccent (.text "red")]
  have checked : ({} : Settings).Checked := by decide +kernel
  refine ⟨wellTyped checked.wellTyped, ?_, ?_⟩
  · have isOk : (current.apply (.update [("fontSize", .number (.int 15))]
        [("fontSize", .number (.int 18))])).isOk = true := by
      decide +kernel
    obtain ⟨next, made⟩ := isOk_iff.mp isOk
    have updated := updates _ _ next (by decide) (by decide) made
    refine ⟨next, made, ?_, ?_⟩
    · exact updated.given .fontSize "fontSize" _ (.inl (by simp)) (by decide)
    · apply updated.kept
      intro key value gives
      have size : key = "fontSize" := by
        rcases gives with changed | ⟨given, -⟩
        · exact (Prod.mk.inj (List.mem_singleton.mp changed)).1
        · exact (Prod.mk.inj (List.mem_singleton.mp given)).1
      rw [size]
      decide
  · exact repeats _ _ "fontSize" "font_size" .fontSize (.inl (by decide)) (.inr (by decide))
      (by decide) (by decide) (by decide)

end Typeset
