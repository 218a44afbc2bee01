import Typeset.Settings.Merge
import Typeset.Proofs.Basic

/-!
# What a merge stores

A merge succeeds when no two entries name the same field, the value of every
named field passes its check, and every name is that of a field.  Every field
then holds the value of the entry that names it, or what it held before.
-/

namespace Typeset

namespace Entries

/-- An entry under the name that its key stands for. -/
def named (entry : String × Value) : String × Value :=
  (resolveKey entry.1, entry.2)

/-- The name of a field stands for itself. -/
theorem resolveKey_name (field : Field) : resolveKey field.name = field.name := by
  cases field <;> rfl

/-- Keys are resolved when no name occurs twice. -/
theorem resolve_eq_ok_iff {seen entries resolved : Entries} (distinct : (seen.map Prod.fst).Nodup) :
    resolve seen entries = .ok resolved ↔
      resolved = seen.reverse ++ entries.map named ∧ (resolved.map Prod.fst).Nodup := by
  induction entries generalizing seen with
  | nil =>
      have reversed : (seen.reverse.map Prod.fst).Nodup := by
        rw [List.map_reverse]
        exact (List.reverse_perm _).nodup_iff.mpr distinct
      simp only [resolve, Except.ok.injEq, List.map_nil, List.append_nil]
      constructor
      · rintro rfl
        exact ⟨rfl, reversed⟩
      · rintro ⟨rfl, -⟩
        rfl
  | cons entry entries ih =>
      rw [resolve]
      by_cases repeated : resolveKey entry.1 ∈ seen.map Prod.fst
      · have found : seen.any (·.1 == resolveKey entry.1) = true := by
          obtain ⟨earlier, member, equal⟩ := List.mem_map.mp repeated
          exact List.any_eq_true.mpr ⟨earlier, member, beq_iff_eq.mpr equal⟩
        simp only [found, if_true, reduceCtorEq, false_iff]
        rintro ⟨rfl, nodup⟩
        rw [List.map_append, List.map_reverse] at nodup
        exact (List.nodup_append.mp nodup).2.2 _ (List.mem_reverse.mpr repeated) _
          List.mem_cons_self rfl
      · have absent : seen.any (·.1 == resolveKey entry.1) = false := by
          apply List.any_eq_false.mpr
          intro earlier member equal
          exact repeated (List.mem_map.mpr ⟨earlier, member, beq_iff_eq.mp equal⟩)
        have stillDistinct : ((named entry :: seen).map Prod.fst).Nodup :=
          List.nodup_cons.mpr ⟨repeated, distinct⟩
        simp only [absent, Bool.false_eq_true, if_false]
        rw [← named, ih stillDistinct]
        simp

theorem resolve_nil_eq_ok_iff {entries resolved : Entries} :
    resolve [] entries = .ok resolved ↔
      resolved = entries.map named ∧ (resolved.map Prod.fst).Nodup :=
  resolve_eq_ok_iff (by simp)

end Entries

namespace Field

/-- A field is found by its name and by no other. -/
theorem ofName?_eq_some_iff {name : String} {field : Field} :
    ofName? name = some field ↔ field.name = name := by
  constructor
  · intro found
    unfold ofName? at found
    have matched := List.find?_some found
    exact beq_iff_eq.mp matched
  · rintro rfl
    exact ofName?_name field

/-- Fields have different names. -/
theorem name_injective {field other : Field} (equal : field.name = other.name) : field = other := by
  have found := ofName?_name field
  rw [equal, ofName?_name] at found
  exact (Option.some.inj found).symm

/-- A value that passes the check of a field can be stored in it. -/
theorem get_put_of_check {stored : Field} {value : Value} (checked : stored.check value = .ok ())
    (settings : Settings) (field : Field) :
    field.get (stored.put settings value) =
      if field = stored then value else field.get settings := by
  have kind : (stored.isLength = true ∧ ∃ number, value = .number number) ∨
      (stored.isLength = false ∧ ∃ text, value = .text text) := by
    cases isLength : stored.isLength with
    | true =>
        cases value with
        | number number => exact .inl ⟨rfl, number, rfl⟩
        | _ => simp [check, isLength] at checked
    | false =>
        cases value with
        | text text => exact .inr ⟨rfl, text, rfl⟩
        | _ => simp [check, isLength] at checked
  rcases kind with ⟨isLength, number, rfl⟩ | ⟨isLength, text, rfl⟩
  · cases stored <;> first | contradiction | (cases field <;> rfl)
  · cases stored <;> first | contradiction | (cases field <;> rfl)

end Field

namespace Settings

/-- The checks succeed when the value of every named field passes its check. -/
theorem checkFields_eq_ok_iff {named : Entries} {fields : List Field} :
    checkFields named fields = .ok () ↔
      ∀ field ∈ fields, ∀ value, named.lookup field.name = some value →
        field.check value = .ok () := by
  induction fields with
  | nil => simp [checkFields]
  | cons field fields ih =>
      rw [checkFields, List.forall_mem_cons, ← ih]
      cases found : named.lookup field.name with
      | none => simp
      | some value =>
          rw [bind_eq_ok_iff]
          constructor
          · rintro ⟨_, checked, others⟩
            refine ⟨?_, others⟩
            rintro _ ⟨rfl⟩
            exact checked
          · rintro ⟨checked, others⟩
            exact ⟨(), checked value rfl, others⟩

/-- Every name is that of a field when no unexpected one is found. -/
theorem firstUnexpected?_eq_none_iff {named : Entries} :
    firstUnexpected? named = none ↔ ∀ entry ∈ named, ∃ field : Field, field.name = entry.1 := by
  simp only [firstUnexpected?, Option.map_eq_none_iff, List.find?_eq_none,
    Option.isNone_iff_eq_none, ← Option.ne_none_iff_exists', Field.ofName?_eq_some_iff.symm]

theorem store_cons (settings : Settings) (field : Field) (value : Value) (named : Entries) :
    settings.store ((field.name, value) :: named) = (field.put settings value).store named := by
  simp [store]

theorem store_cons_of_unknown {name : String} (unknown : Field.ofName? name = none)
    (settings : Settings) (value : Value) (named : Entries) :
    settings.store ((name, value) :: named) = settings.store named := by
  simp [store, unknown]

/-- A stored snapshot holds in every field the value that names it, if there is
one. -/
theorem get_store {named : Entries} (distinct : (named.map Prod.fst).Nodup)
    (checked : ∀ field value, (Field.name field, value) ∈ named → field.check value = .ok ())
    (settings : Settings) (field : Field) :
    field.get (settings.store named) = (named.lookup field.name).getD (field.get settings) := by
  induction named generalizing settings with
  | nil => rfl
  | cons entry named ih =>
      rcases entry with ⟨name, value⟩
      obtain ⟨unseen, distinctRest⟩ := List.nodup_cons.mp distinct
      have stores := ih distinctRest fun field value member =>
        checked field value (List.mem_cons_of_mem _ member)
      cases found : Field.ofName? name with
      | none =>
          have different : (field.name == name) = false := by
            apply beq_false_of_ne
            rintro rfl
            simp at found
          rw [store_cons_of_unknown found, stores, List.lookup_cons, different]
      | some stored =>
          cases Field.ofName?_eq_some_iff.mp found
          have put :=
            Field.get_put_of_check (checked stored value List.mem_cons_self) settings field
          rw [store_cons, stores, put, List.lookup_cons]
          by_cases same : field = stored
          · subst same
            have absent : named.lookup field.name = none := by
              apply List.lookup_eq_none_iff.mpr
              intro other member
              apply bne_iff_ne.mpr
              intro equal
              exact unseen (List.mem_map.mpr ⟨other, member, equal.symm⟩)
            simp [absent]
          · have different : (field.name == stored.name) = false := by
              apply beq_false_of_ne
              intro equal
              exact same (Field.name_injective equal)
            simp [same, different]

/-- What a merge needs of entries under their names. -/
structure Mergeable (named : Entries) : Prop where
  distinct : (named.map Prod.fst).Nodup
  checked : ∀ field value, (Field.name field, value) ∈ named → field.check value = .ok ()
  fields : ∀ entry ∈ named, ∃ field : Field, field.name = entry.1

/-- A merge succeeds for mergeable entries, and stores all of them. -/
theorem merge_eq_ok_iff {base merged : Settings} {entries : Entries} :
    base.merge entries = .ok merged ↔
      Mergeable (entries.map Entries.named) ∧ base.store (entries.map Entries.named) = merged := by
  unfold merge
  simp only [bind_eq_ok_iff, Entries.resolve_nil_eq_ok_iff]
  constructor
  · rintro ⟨named, ⟨rfl, distinct⟩, _, checks, stored⟩
    cases unexpected : firstUnexpected? (entries.map Entries.named) with
    | some key =>
        rw [unexpected] at stored
        contradiction
    | none =>
        rw [unexpected] at stored
        cases stored
        refine ⟨⟨distinct, ?_, firstUnexpected?_eq_none_iff.mp unexpected⟩, rfl⟩
        intro field value member
        exact checkFields_eq_ok_iff.mp checks field (Field.mem_all field) value
          (lookup_eq_some_of_mem distinct member)
  · rintro ⟨mergeable, rfl⟩
    refine ⟨_, ⟨rfl, mergeable.distinct⟩, (), ?_, ?_⟩
    · apply checkFields_eq_ok_iff.mpr
      intro field _ value found
      exact mergeable.checked field value (mem_of_lookup_eq_some found)
    · rw [firstUnexpected?_eq_none_iff.mpr mergeable.fields]
      rfl

/-- After a merge a field holds the value of the entry that names it, or what it held. -/
theorem get_eq_of_merge {base merged : Settings} {entries : Entries}
    (succeeded : base.merge entries = .ok merged) (field : Field) :
    field.get merged =
      ((entries.map Entries.named).lookup field.name).getD (field.get base) := by
  obtain ⟨mergeable, rfl⟩ := merge_eq_ok_iff.mp succeeded
  exact get_store mergeable.distinct mergeable.checked base field

/-- A merge leaves a field as it was or gives it a value that passes its check. -/
theorem get_of_merge {base merged : Settings} {entries : Entries}
    (succeeded : base.merge entries = .ok merged) (field : Field) :
    field.get merged = field.get base ∨ field.check (field.get merged) = .ok () := by
  rw [get_eq_of_merge succeeded]
  cases found : (entries.map Entries.named).lookup field.name with
  | none => exact .inl rfl
  | some value =>
      have mergeable := (merge_eq_ok_iff.mp succeeded).1
      exact .inr (mergeable.checked field value (mem_of_lookup_eq_some found))

end Settings

end Typeset
