import Typeset.File.Folder
import Typeset.Proofs.Basic

/-!
# Writing a file

A file that is written holds what was written, and no other place changes: the
folders on the way to it have to be there before.  A name with a null character leads
nowhere.
-/

namespace Typeset

/-! ## Names -/

/-- A text is cut without a loss but for the marks. -/
theorem Text.exists_mem_splitAt_iff {mark c : Char} (different : c ≠ mark) {text : List Char} :
    (∃ piece ∈ splitAt mark text, c ∈ piece) ↔ c ∈ text := by
  induction text with
  | nil => simp [splitAt]
  | cons first text ih =>
      rw [splitAt]
      by_cases atMark : first = mark
      · simp [atMark, ih, different]
      · rw [if_neg (by simpa using atMark), List.mem_cons, ← ih]
        cases pieces : splitAt mark text with
        | nil => exact absurd pieces (splitAt_ne_nil mark text)
        | cons piece pieces => simp [or_assoc]

theorem FilePath.hasNull_ofString_iff {name : String} :
    (ofString name).hasNull = true ↔ '\x00' ∈ name.toList := by
  have slash : '\x00' ≠ '/' := by decide
  rw [← Text.exists_mem_splitAt_iff slash]
  simp only [hasNull, ofString, List.any_map, List.any_filter, List.any_eq_true,
    Function.comp_apply, String.toList_ofList, Bool.and_eq_true, List.contains_iff_mem]
  refine exists_congr fun piece => and_congr_right fun _ => and_iff_right_of_imp ?_
  intro null
  constructor
  · cases piece with
    | nil => contradiction
    | cons => rfl
  · apply bne_iff_ne.mpr
    rintro rfl
    revert null
    decide

/-! ## Places -/

namespace Place

/-- One part of a name leads from a place to one below it, to the place itself or to
the one above. -/
theorem enter_cases (place : Place) (part : String) :
    place.enter part = place ++ [part] ∨ place.enter part = place ∨
      place.enter part = place.dropLast := by
  unfold enter
  split
  · split
    · exact .inl rfl
    · split
      · exact .inr (.inl rfl)
      · exact .inr (.inr rfl)
  · exact .inl rfl

end Place

namespace FilePath

/-- Some places on the way to another one include all that lie above it, apart from
those that are always there. -/
def Covers (above : List Place) (place : Place) : Prop :=
  ∀ outer : Place, outer <+: place → outer ≠ place → outer ∈ above ∨ outer.all leadsOut = true

theorem Covers.enter {above : List Place} {place : Place} (covers : Covers above place)
    (part : String) : Covers (above ++ [place]) (place.enter part) := by
  intro outer outside different
  have widen : outer ∈ above ∨ outer.all leadsOut = true →
      outer ∈ above ++ [place] ∨ outer.all leadsOut = true := by
    rintro (member | always)
    · exact .inl (List.mem_append_left _ member)
    · exact .inr always
  rcases place.enter_cases part with below | same | up
  · rw [below] at outside different
    rcases List.prefix_concat_iff.mp outside with whole | inside
    · exact absurd whole different
    · by_cases equal : outer = place
      · exact .inl (by simp [equal])
      · exact widen (covers outer inside equal)
  · rw [same] at outside different
    exact widen (covers outer outside different)
  · rw [up] at outside different
    have inside := outside.trans (List.dropLast_prefix place)
    refine widen (covers outer inside ?_)
    rintro rfl
    exact different (outside.eq_of_length_le (List.dropLast_prefix outer).length_le)

theorem covers_trail (path : FilePath) : Covers path.trail.1 path.trail.2 := by
  have start : Covers [] path.start := by
    intro outer outside different
    unfold FilePath.start at outside different
    refine .inr ?_
    split at outside
    · rw [List.prefix_nil.mp outside]
      rfl
    · rename_i rooted
      rcases List.prefix_cons_iff.mp outside with rfl | ⟨rest, rfl, restOutside⟩
      · rfl
      · rw [List.prefix_nil.mp restOutside] at different
        simp [rooted] at different
  have onward : ∀ (parts : List String) (walked : List Place × Place), Covers walked.1 walked.2 →
      Covers
        (parts.foldl (fun walked part => (walked.1 ++ [walked.2], walked.2.enter part)) walked).1
        (parts.foldl (fun walked part => (walked.1 ++ [walked.2], walked.2.enter part)) walked).2 := by
    intro parts
    induction parts with
    | nil => exact fun _ covers => covers
    | cons part parts ih => exact fun walked covers => ih _ (covers.enter part)
  exact onward path.parts ([], path.start) start

end FilePath

/-! ## Entries -/

namespace Folder

variable {folder after : Folder} {place other : Place} {entry : Entry}

/-- Replacing an entry changes what is found at its place only. -/
theorem lookup_map_replace (entries : List (Place × Entry)) :
    (entries.map fun old => if old.1 == place then (place, entry) else old).lookup other =
      if other = place then (entries.lookup place).map fun _ => entry
      else entries.lookup other := by
  induction entries with
  | nil => simp
  | cons old entries ih =>
      rcases old with ⟨oldPlace, oldEntry⟩
      rw [List.map_cons]
      by_cases here : oldPlace = place
      · subst here
        by_cases equal : other = oldPlace
        · simp [equal]
        · have skipped : (other == oldPlace) = false := beq_false_of_ne equal
          simp only [beq_self_eq_true, if_true, List.lookup_cons, skipped, ih, equal, if_false]
      · have kept : (oldPlace == place) = false := beq_false_of_ne here
        have skipped : (place == oldPlace) = false := beq_false_of_ne (Ne.symm here)
        by_cases equal : other = place
        · subst equal
          simp only [kept, Bool.false_eq_true, if_false, if_true, List.lookup_cons, skipped, ih]
        · simp only [kept, Bool.false_eq_true, if_false, List.lookup_cons, ih, equal]

theorem lookup_put :
    (folder.put place entry).entries.lookup other =
      if other = place then some entry else folder.entries.lookup other := by
  unfold put
  split
  · rename_i present
    obtain ⟨old, found⟩ := Option.isSome_iff_exists.mp present
    simp only [lookup_map_replace, found, Option.map_some]
  · rename_i absent
    rw [Option.not_isSome_iff_eq_none] at absent
    rw [List.lookup_append, List.lookup_cons, List.lookup_nil]
    by_cases equal : other = place
    · subst equal
      simp only [absent, beq_self_eq_true, if_true, Option.none_or]
    · simp only [beq_false_of_ne equal, Option.or_none, equal, if_false]

/-- No entry but the one that is put changes what lies below a place. -/
theorem any_isPrefixOf_put :
    ((folder.put place entry).entries.any fun old => other.isPrefixOf old.1) =
      ((folder.entries.any fun old => other.isPrefixOf old.1) || other.isPrefixOf place) := by
  unfold put
  split
  · rename_i present
    have samePlaces : ((folder.entries.map fun old =>
        if old.1 == place then (place, entry) else old).any fun old => other.isPrefixOf old.1) =
          folder.entries.any fun old => other.isPrefixOf old.1 := by
      rw [List.any_map]
      congr 1
      funext old
      by_cases here : old.1 = place <;> simp [here]
    obtain ⟨old, found⟩ := Option.isSome_iff_exists.mp present
    rw [samePlaces]
    cases below : other.isPrefixOf place with
    | false => simp
    | true =>
        rw [Bool.or_true]
        exact List.any_eq_true.mpr ⟨_, mem_of_lookup_eq_some found, below⟩
  · simp

theorem find?_put_self : (folder.put place entry).find? place = some entry := by
  simp [find?, lookup_put]

/-- A place stays as it was if it is another one, and was there before in case that the
entry lies below it. -/
theorem find?_put_of_ne (different : other ≠ place)
    (above : other <+: place → folder.find? other ≠ none) :
    (folder.put place entry).find? other = folder.find? other := by
  unfold find? at above ⊢
  rw [lookup_put, if_neg different, any_isPrefixOf_put]
  cases found : folder.entries.lookup other with
  | some old => rfl
  | none =>
      by_cases below : other <+: place
      · have known := above below
        simp only [found] at known
        have isThere : (other.all leadsOut ||
            folder.entries.any fun old => other.isPrefixOf old.1) = true := by
          apply Bool.of_not_eq_false
          intro missing
          simp [missing] at known
        rw [← Bool.or_assoc, isThere, Bool.true_or]
      · have notBelow : other.isPrefixOf place = false := by
          apply Bool.eq_false_iff.mpr
          exact fun isPrefix => below (List.isPrefixOf_iff_prefix.mp isPrefix)
        rw [notBelow, Bool.or_false]

/-- What has to be a folder on the way to a path is one. -/
theorem checkAbove_eq_ok_iff {path : FilePath} {places : List Place} {done : Unit} :
    folder.checkAbove path places = .ok done ↔
      ∀ place ∈ places, folder.find? place = some .folder := by
  induction places with
  | nil => simp [checkAbove]
  | cons place places ih =>
      rw [checkAbove, List.forall_mem_cons, ← ih]
      split
      · rename_i found
        simp [found]
      · rename_i found
        simp [found]
      · rename_i found
        simp [found]

/-- The place of a path is found when its folders are there and it has no null character. -/
theorem locate_eq_ok_iff {path : FilePath} :
    folder.locate path = .ok place ↔
      path.hasNull = false ∧ (∀ outer ∈ path.trail.1, folder.find? outer = some .folder) ∧
        path.trail.2 = place := by
  unfold locate
  cases path.hasNull with
  | true => simp [throw, throwThe, MonadExceptOf.throw, bind, Except.bind]
  | false =>
      simp only [Bool.false_eq_true, if_false, true_and, bind_eq_ok_iff, checkAbove_eq_ok_iff,
        pure, Except.pure, Except.ok.injEq, exists_const]

/-- What has to be a folder is missing or a file. -/
theorem checkAbove_ne_nullByte {path : FilePath} (places : List Place) :
    folder.checkAbove path places ≠ .error .nullByte := by
  induction places with
  | nil => simp [checkAbove]
  | cons place places ih =>
      rw [checkAbove]
      split
      · exact ih
      · simp
      · simp

/-- Writing fails for a null character when the name has one. -/
theorem write_eq_nullByte_iff {path : FilePath} {bytes : List UInt8} :
    folder.write path bytes = .error .nullByte ↔ path.hasNull = true := by
  cases null : path.hasNull with
  | true => simp [write, locate, null, throw, throwThe, MonadExceptOf.throw, bind, Except.bind]
  | false =>
      simp only [write, locate, null, Bool.false_eq_true, if_false, iff_false]
      intro failed
      rcases bind_eq_error_iff.mp failed with unfound | ⟨place, -, unstored⟩
      · rcases bind_eq_error_iff.mp unfound with unfound | ⟨done, -, unfound⟩
        · exact checkAbove_ne_nullByte _ unfound
        · cases unfound
      · split at unstored
        · cases unstored
        · cases unstored

theorem find?_ne_none_of_all_leadsOut (always : other.all leadsOut = true) :
    folder.find? other ≠ none := by
  unfold find?
  cases folder.entries.lookup other with
  | some old => simp
  | none => simp [always]

/-- A file that is written holds its bytes, and no other place changes. -/
theorem find?_of_write {path : FilePath} {bytes : List UInt8}
    (written : folder.write path bytes = .ok after) :
    after.find? path.trail.2 = some (.file bytes) ∧
      ∀ other ≠ path.trail.2, after.find? other = folder.find? other := by
  obtain ⟨place, located, stored⟩ := bind_eq_ok_iff.mp written
  obtain ⟨-, folders, rfl⟩ := locate_eq_ok_iff.mp located
  have result : folder.put path.trail.2 (.file bytes) = after := by
    split at stored
    · contradiction
    · exact Except.ok.inj stored
  subst result
  refine ⟨find?_put_self, ?_⟩
  intro other different
  apply find?_put_of_ne different
  intro above
  rcases path.covers_trail other above different with onTheWay | always
  · rw [folders other onTheWay]
    exact Option.some_ne_none _
  · exact find?_ne_none_of_all_leadsOut always

end Folder

end Typeset
