/-!
# Failing computations and named values

A computation in several steps succeeds when each of its steps does.  A search
through a list stops at the first element that it looks for.  A value that is found
under a name stands in the list with that name; the converse holds when no name
occurs twice.
-/

namespace Typeset

universe u v

variable {ε : Type u} {α β : Type v}

/-- A computation that is seen to succeed has a result. -/
theorem isOk_iff {first : Except ε α} : first.isOk = true ↔ ∃ result, first = .ok result := by
  cases first with
  | error fault => simp [Except.isOk, Except.toBool]
  | ok middle => simp [Except.isOk, Except.toBool]

theorem toOption_eq_some_iff {first : Except ε α} {result : α} :
    first.toOption = some result ↔ first = .ok result := by
  cases first with
  | error fault => simp [Except.toOption]
  | ok middle => simp [Except.toOption]

theorem bind_eq_ok_iff {first : Except ε α} {later : α → Except ε β} {result : β} :
    (first >>= later) = .ok result ↔
      ∃ middle, first = .ok middle ∧ later middle = .ok result := by
  cases first with
  | error fault =>
      constructor
      · intro succeeded
        contradiction
      · rintro ⟨middle, succeeded, -⟩
        contradiction
  | ok middle =>
      constructor
      · intro succeeded
        exact ⟨middle, rfl, succeeded⟩
      · rintro ⟨other, equal, succeeded⟩
        cases equal
        exact succeeded

theorem bind_eq_error_iff {first : Except ε α} {later : α → Except ε β} {error : ε} :
    (first >>= later) = .error error ↔
      first = .error error ∨ ∃ middle, first = .ok middle ∧ later middle = .error error := by
  cases first with
  | error fault =>
      constructor
      · intro failed
        cases failed
        exact .inl rfl
      · rintro (failed | ⟨middle, succeeded, -⟩)
        · cases failed
          rfl
        · contradiction
  | ok middle =>
      constructor
      · intro failed
        exact .inr ⟨middle, rfl, failed⟩
      · rintro (failed | ⟨other, equal, failed⟩)
        · contradiction
        · cases equal
          exact failed

theorem map_eq_ok_iff {first : Except ε α} {f : α → β} {result : β} :
    first.map f = .ok result ↔ ∃ middle, first = .ok middle ∧ f middle = result := by
  cases first with
  | error fault => simp [Except.map]
  | ok middle => simp [Except.map]

theorem mapError_eq_ok_iff {ε' : Type u} {first : Except ε α} {f : ε → ε'} {result : α} :
    first.mapError f = .ok result ↔ first = .ok result := by
  cases first with
  | error fault =>
      constructor
      · intro succeeded
        cases succeeded
      · intro succeeded
        cases succeeded
  | ok middle =>
      constructor
      · intro succeeded
        cases succeeded
        rfl
      · intro succeeded
        cases succeeded
        rfl

theorem mapError_eq_error_iff {ε' : Type u} {first : Except ε α} {f : ε → ε'} {error : ε'} :
    first.mapError f = .error error ↔ ∃ fault, first = .error fault ∧ f fault = error := by
  cases first with
  | error fault =>
      constructor
      · intro failed
        cases failed
        exact ⟨fault, rfl, rfl⟩
      · rintro ⟨other, equal, rfl⟩
        cases equal
        rfl
  | ok middle =>
      constructor
      · intro failed
        cases failed
      · rintro ⟨other, equal, -⟩
        cases equal

theorem map_eq_error_iff {first : Except ε α} {f : α → β} {error : ε} :
    first.map f = .error error ↔ first = .error error := by
  cases first with
  | error fault => simp [Except.map]
  | ok middle => simp [Except.map]

/-! ## First elements -/

/-- The first element that is found is the head, or the head is passed over and the element is
the first in the tail. -/
theorem exists_first_cons_iff {passed found : α → Prop} {head : α} {tail : List α} :
    (∃ before first after, head :: tail = before ++ first :: after ∧
      (∀ earlier ∈ before, passed earlier) ∧ found first) ↔
    found head ∨ passed head ∧ ∃ before first after, tail = before ++ first :: after ∧
      (∀ earlier ∈ before, passed earlier) ∧ found first := by
  constructor
  · rintro ⟨before, first, after, split, passes, finds⟩
    cases before with
    | nil =>
        cases split
        exact .inl finds
    | cons earlier before =>
        cases split
        obtain ⟨passesHead, passes⟩ := List.forall_mem_cons.mp passes
        exact .inr ⟨passesHead, before, first, after, rfl, passes, finds⟩
  · rintro (finds | ⟨passesHead, before, first, after, rfl, passes, finds⟩)
    · exact ⟨[], head, tail, rfl, nofun, finds⟩
    · exact ⟨head :: before, first, after, rfl, List.forall_mem_cons.mpr ⟨passesHead, passes⟩,
        finds⟩

/-- The last element that is found is the last in the tail, or the head if all of the tail is
passed over. -/
theorem exists_last_cons_iff {found passed : α → Prop} {head : α} {tail : List α} :
    (∃ before last after, head :: tail = before ++ last :: after ∧
      found last ∧ ∀ later ∈ after, passed later) ↔
    (∃ before last after, tail = before ++ last :: after ∧
      found last ∧ ∀ later ∈ after, passed later) ∨
    found head ∧ ∀ later ∈ tail, passed later := by
  constructor
  · rintro ⟨before, last, after, split, finds, passes⟩
    cases before with
    | nil =>
        cases split
        exact .inr ⟨finds, passes⟩
    | cons first before =>
        cases split
        exact .inl ⟨before, last, after, rfl, finds, passes⟩
  · rintro (⟨before, last, after, rfl, finds, passes⟩ | ⟨finds, passes⟩)
    · exact ⟨head :: before, last, after, rfl, finds, passes⟩
    · exact ⟨[], head, tail, rfl, finds, passes⟩

/-- A run of elements of one kind is empty where the first element is of another kind. -/
theorem takeWhile_eq_nil {kind : α → Bool} {rest : List α}
    (stops : ∀ element ∈ rest.head?, kind element = false) : rest.takeWhile kind = [] := by
  cases rest with
  | nil => rfl
  | cons element rest => rw [List.takeWhile_cons_of_neg (by simp [stops element rfl])]

/-- A run of elements of one kind ends where the next one is of another kind. -/
theorem takeWhile_append_eq {kind : α → Bool} {run rest : List α}
    (all : ∀ element ∈ run, kind element = true)
    (stops : ∀ element ∈ rest.head?, kind element = false) :
    (run ++ rest).takeWhile kind = run := by
  rw [List.takeWhile_append_of_pos all, takeWhile_eq_nil stops, List.append_nil]

/-- Where a run of a kind of element stops at a mark, the mark follows the run. -/
theorem exists_eq_takeWhile_append {kind : α → Bool} {mark : α} {list : List α}
    (stops : (list.drop (list.takeWhile kind).length).head? = some mark) :
    ∃ after, list = list.takeWhile kind ++ mark :: after := by
  rcases List.head?_eq_some_iff.mp stops with ⟨after, rest⟩
  have parts := List.prefix_iff_eq_append.mp (List.takeWhile_prefix (l := list) kind)
  rw [rest] at parts
  exact ⟨after, parts.symm⟩

/-! ## Named values -/

section Lookup

variable {κ : Type u} [BEq κ] [LawfulBEq κ] {entries : List (κ × α)} {name : κ} {value : α}

theorem mem_of_lookup_eq_some (found : entries.lookup name = some value) :
    (name, value) ∈ entries := by
  obtain ⟨before, after, rfl, -⟩ := List.lookup_eq_some_iff.mp found
  simp

theorem lookup_eq_some_of_mem (distinct : (entries.map Prod.fst).Nodup)
    (member : (name, value) ∈ entries) : entries.lookup name = some value := by
  obtain ⟨before, after, rfl⟩ := List.append_of_mem member
  apply List.lookup_eq_some_iff.mpr
  refine ⟨before, after, rfl, ?_⟩
  intro earlier earlierMember
  rw [List.map_append] at distinct
  apply bne_iff_ne.mpr
  intro equal
  exact (List.nodup_append.mp distinct).2.2 _ (List.mem_map.mpr ⟨earlier, earlierMember, rfl⟩) _
    List.mem_cons_self equal.symm

end Lookup

end Typeset
