import Typeset.Proofs.Json.Reader
import Typeset.Text.Utf8

/-!
# Line endings in JSON texts

Lines end only in the white space of a text: a string holds no control characters.  Main statement:
a text of the grammar is one for the same value when its line endings are unified.
-/

namespace Typeset

namespace Text

theorem unifyLines_cons {c : Char} {rest : List Char} (noReturn : c ≠ '\r') :
    unifyLines (c :: rest) = c :: unifyLines rest := by
  rw [unifyLines]
  · rintro _ rfl
    contradiction
  · rintro rfl
    contradiction

theorem unifyLines_return {rest : List Char} (noFeed : rest.head? ≠ some '\n') :
    unifyLines ('\r' :: rest) = '\n' :: unifyLines rest := by
  rw [unifyLines]
  rintro _ rfl
  contradiction

/-- Line endings are unified on both sides of a place that is not inside one. -/
theorem unifyLines_append {first second : List Char}
    (apart : first.getLast? ≠ some '\r' ∨ second.head? ≠ some '\n') :
    unifyLines (first ++ second) = unifyLines first ++ unifyLines second := by
  have tail : ∀ {c : Char} {rest : List Char},
      (c :: rest).getLast? ≠ some '\r' ∨ second.head? ≠ some '\n' →
        rest.getLast? ≠ some '\r' ∨ second.head? ≠ some '\n' := by
    refine fun apart => apart.imp_left fun last ends => last ?_
    rw [List.getLast?_cons, ends]
    rfl
  fun_induction unifyLines first with
  | case1 => rfl
  | case2 rest ih =>
      rw [List.cons_append, List.cons_append, unifyLines, ih (tail (tail apart)), List.cons_append]
  | case3 rest notFeed ih =>
      have noFeed : (rest ++ second).head? ≠ some '\n' := by
        cases rest with
        | nil => exact apart.resolve_left fun last => last rfl
        | cons c others =>
            rintro ⟨rfl⟩
            exact notFeed others rfl
      rw [List.cons_append, unifyLines_return noFeed, ih (tail apart), List.cons_append]
  | case4 c rest notBoth notReturn ih =>
      rw [List.cons_append, unifyLines_cons notReturn, ih (tail apart), List.cons_append]

theorem unifyLines_eq_self {text : List Char} (noReturn : '\r' ∉ text) :
    unifyLines text = text := by
  fun_induction unifyLines text with
  | case1 => rfl
  | case2 rest ih => simp at noReturn
  | case3 rest notFeed ih => simp at noReturn
  | case4 c rest notBoth notReturn ih =>
      rw [ih fun member => noReturn (List.mem_cons_of_mem _ member)]

theorem mem_unifyLines {text : List Char} {c : Char} (member : c ∈ unifyLines text) :
    c = '\n' ∨ c ∈ text := by
  fun_induction unifyLines text with
  | case1 => contradiction
  | case2 rest ih =>
      rcases List.mem_cons.mp member with feed | member
      · exact .inl feed
      · exact (ih member).imp_right fun member => by simp [member]
  | case3 rest notFeed ih =>
      rcases List.mem_cons.mp member with feed | member
      · exact .inl feed
      · exact (ih member).imp_right (List.mem_cons_of_mem _)
  | case4 c rest notBoth notReturn ih =>
      rcases List.mem_cons.mp member with rfl | member
      · exact .inr List.mem_cons_self
      · exact (ih member).imp_right (List.mem_cons_of_mem _)

end Text

namespace Json

open Text

variable {limit : Nat} {text : List Char}

theorem isBlank_unifyLines {blank : List Char} (isBlank : IsBlank blank) :
    IsBlank (unifyLines blank) := by
  intro c member
  rcases mem_unifyLines member with rfl | member
  · rfl
  · exact isBlank c member

/-! ## Parts -/

/-- A part with unified line endings. -/
def Part.unify (part : Part) : Part :=
  ⟨unifyLines part.before, unifyLines part.body, isBlank_unifyLines part.isBlank⟩

theorem Starts.unifyLines_append (starts : Starts text) (before : List Char) :
    unifyLines (before ++ text) = unifyLines before ++ unifyLines text :=
  Text.unifyLines_append (.inr (starts.head?_ne rfl))

theorem unifyLines_append_cons {c : Char} (noReturn : c ≠ '\r') (noFeed : c ≠ '\n')
    (before after : List Char) :
    unifyLines (before ++ c :: after) = unifyLines before ++ c :: unifyLines after := by
  rw [Text.unifyLines_append (.inr (by simpa using noFeed)), unifyLines_cons noReturn]

theorem unifyLines_partsText {first : Part} {others : List Part}
    (starts : ∀ part ∈ others, Starts part.body) :
    unifyLines (partsText first others) = partsText first.unify (others.map Part.unify) := by
  induction others generalizing first with
  | nil =>
      simp only [partsText, List.map_nil, List.flatMap_nil, List.append_nil]
      rfl
  | cons next others ih =>
      obtain ⟨startsNext, startsOthers⟩ := List.forall_mem_cons.mp starts
      have following : Starts (partsText next others) := startsNext.append
      rw [partsText_cons, unifyLines_append_cons (by decide) (by decide),
        following.unifyLines_append, ih startsOthers, List.map_cons, partsText_cons]
      rfl

theorem unifyLines_enclosed {opening closing : Char} {blank : List Char} {parts : List Part}
    (starts : ∀ part ∈ parts, Starts part.body) (opens : opening ≠ '\r') (closes : closing ≠ '\r')
    (noFeed : closing ≠ '\n') :
    unifyLines (enclosed opening closing blank parts) =
      enclosed opening closing (unifyLines blank) (parts.map Part.unify) := by
  cases parts with
  | nil =>
      rw [enclosed, unifyLines_cons opens, unifyLines_append_cons closes noFeed]
      rfl
  | cons first others =>
      obtain ⟨startsFirst, startsOthers⟩ := List.forall_mem_cons.mp starts
      have following : Starts (partsText first others ++ [closing]) := startsFirst.append.append
      rw [enclosed, unifyLines_cons opens, following.unifyLines_append,
        unifyLines_append_cons closes noFeed, unifyLines_partsText startsOthers]
      rfl

theorem getLast?_enclosed {opening closing : Char} {blank : List Char} (parts : List Part) :
    (enclosed opening closing blank parts).getLast? = some closing := by
  cases parts <;> simp [enclosed, List.getLast?_cons, List.getLast?_append]

/-! ## Items and members -/

/-- An item with unified line endings. -/
def Item.unify (item : Item) : Item :=
  ⟨unifyLines item.before, unifyLines item.text, unifyLines item.after, item.value,
    isBlank_unifyLines item.isBlankBefore, isBlank_unifyLines item.isBlankAfter⟩

/-- A member with unified line endings. -/
def Member.unify (member : Member) : Member :=
  ⟨unifyLines member.before, member.spelling, member.name, unifyLines member.between,
    member.item.unify, isBlank_unifyLines member.isBlankBefore,
    isBlank_unifyLines member.isBlankBetween, member.spells⟩

theorem Item.part_unify {item : Item} (ends : item.text.getLast? ≠ some '\r') :
    item.unify.part = item.part.unify := by
  simp only [part, unify, Part.unify, Part.mk.injEq, true_and]
  rw [Text.unifyLines_append (.inl ends)]

theorem Member.part_unify {member : Member} (noReturn : '\r' ∉ member.spelling)
    (starts : Starts member.item.text) (ends : member.item.text.getLast? ≠ some '\r') :
    member.unify.part = member.part.unify := by
  have following : Starts member.item.part.body := starts.append
  have name : unifyLines (quoted member.spelling) = quoted member.spelling :=
    unifyLines_eq_self (by simp [quoted, noReturn])
  have last : (quoted member.spelling).getLast? ≠ some '\r' := by
    simp [quoted, List.getLast?_cons]
  simp only [part, unify, Part.unify, Part.mk.injEq, true_and, Item.part_unify ends]
  rw [Text.unifyLines_append (.inl last), name, unifyLines_append_cons (by decide) (by decide),
    Part.whole, Part.whole, following.unifyLines_append]

/-! ## Texts -/

theorem noReturn_of_hexCode? {a b c d : Char} {code : Nat} (digits : hexCode? a b c d = some code) :
    '\r' ∉ [a, b, c, d] := by
  intro member
  unfold hexCode? at digits
  dsimp only at digits
  split at digits
  · rename_i all
    cases List.all_eq_true.mp all '\r' member
  · cases digits

theorem StringText.noReturn {chars : List Char} (spells : StringText text chars) :
    '\r' ∉ text := by
  induction spells with
  | nil => simp
  | plain visible notQuote notEscape spells ih =>
      refine List.not_mem_cons_of_ne_of_not_mem ?_ ih
      rintro rfl
      revert visible
      decide
  | escape simple spells ih =>
      refine List.not_mem_cons_of_ne_of_not_mem (by decide)
        (List.not_mem_cons_of_ne_of_not_mem ?_ ih)
      rintro rfl
      cases simple
  | code digits unpaired spells ih =>
      have noReturn := noReturn_of_hexCode? digits
      simp_all
  | pair digits isHigh lowDigits isLow spells ih =>
      have noReturn := noReturn_of_hexCode? digits
      have lowNoReturn := noReturn_of_hexCode? lowDigits
      simp_all

theorem noReturn_of_isDigit {digits : List Char} (all : ∀ c ∈ digits, c.isDigit = true) :
    '\r' ∉ digits := by
  intro member
  cases all _ member

theorem Exponent.noReturn (exponent : Exponent) : '\r' ∉ exponent.text := by
  have digits := noReturn_of_isDigit exponent.isDigits.2
  rcases exponent.isMark with mark | mark <;> rcases exponent.isSign with sign | sign | sign <;>
    simp [text, mark, sign, digits]

theorem Numeral.noReturn (numeral : Numeral) : '\r' ∉ numeral.text := by
  simp only [text, List.mem_append, not_or]
  refine ⟨?_, noReturn_of_isDigit numeral.isDigits.2, ?_, ?_⟩
  · rw [signText]
    split <;> decide
  · rw [fractionText]
    split
    · exact List.not_mem_nil
    · exact List.not_mem_cons_of_ne_of_not_mem (by decide) (noReturn_of_isDigit numeral.isFraction)
  · rw [exponentText]
    cases numeral.exponent with
    | none => exact List.not_mem_nil
    | some exponent => exact exponent.noReturn

theorem unifyLines_listText (blank : List Char) {items : List Item}
    (starts : ∀ item ∈ items, Starts item.text)
    (ends : ∀ item ∈ items, item.text.getLast? ≠ some '\r') :
    unifyLines (listText blank items) = listText (unifyLines blank) (items.map Item.unify) := by
  have parts : (items.map Item.unify).map Item.part = (items.map Item.part).map Part.unify := by
    rw [List.map_map, List.map_map]
    exact List.map_congr_left fun item member => Item.part_unify (ends item member)
  rw [listText, listText, parts]
  refine unifyLines_enclosed ?_ (by decide) (by decide) (by decide)
  exact List.forall_mem_map.mpr fun item member => (starts item member).append

theorem unifyLines_objectText (blank : List Char) {members : List Member}
    (starts : ∀ member ∈ members, Starts member.item.text)
    (ends : ∀ member ∈ members, member.item.text.getLast? ≠ some '\r') :
    unifyLines (objectText blank members) =
      objectText (unifyLines blank) (members.map Member.unify) := by
  have parts : (members.map Member.unify).map Member.part =
      (members.map Member.part).map Part.unify := by
    rw [List.map_map, List.map_map]
    exact List.map_congr_left fun member listed =>
      Member.part_unify member.spells.noReturn (starts member listed) (ends member listed)
  rw [objectText, objectText, parts]
  refine unifyLines_enclosed ?_ (by decide) (by decide) (by decide)
  exact List.forall_mem_map.mpr fun member _ => starts_member member

/-- A text keeps its value when its line endings are unified, and it ends in no line ending. -/
theorem Written.unifyLines {value : Value} (written : Written limit text value) :
    Written limit (Text.unifyLines text) value ∧ text.getLast? ≠ some '\r' := by
  have oneLine : ∀ {text : List Char} {value : Value}, Written limit text value → '\r' ∉ text →
      Written limit (Text.unifyLines text) value ∧ text.getLast? ≠ some '\r' := by
    intro text value written noReturn
    rw [unifyLines_eq_self noReturn]
    exact ⟨written, fun last => noReturn (List.mem_of_getLast? last)⟩
  induction written with
  | word listed =>
      have noReturn : ∀ entry ∈ words, '\r' ∉ entry.1.toList := by decide
      exact oneLine (.word listed) (noReturn _ listed)
  | string spells => exact oneLine (.string spells) (by simp [quoted, spells.noReturn])
  | number fits => exact oneLine (.number fits) (Numeral.noReturn _)
  | @list blank items isBlank written ih =>
      refine ⟨?_, by rw [listText, getLast?_enclosed]; decide⟩
      rw [unifyLines_listText blank (fun item member => (written item member).reads.starts)
        fun item member => (ih item member).2]
      have values : (items.map Item.unify).map Item.value = items.map Item.value := by
        rw [List.map_map]
        rfl
      rw [← values]
      refine .list (isBlank_unifyLines isBlank) (List.forall_mem_map.mpr fun item member => ?_)
      exact (ih item member).1
  | @object blank members isBlank written ih =>
      refine ⟨?_, by rw [objectText, getLast?_enclosed]; decide⟩
      rw [unifyLines_objectText blank (fun member listed => (written member listed).reads.starts)
        fun member listed => (ih member listed).2]
      have entries : (members.map Member.unify).map Member.entry = members.map Member.entry := by
        rw [List.map_map]
        rfl
      rw [← entries]
      refine .object (isBlank_unifyLines isBlank) (List.forall_mem_map.mpr fun member listed => ?_)
      exact (ih member listed).1

/-- The text of an object is one with the same members when its line endings are unified. -/
theorem ObjectText.unifyLines {entries : List (String × Value)}
    (object : ObjectText limit text entries) :
    ObjectText limit (Text.unifyLines text) entries := by
  cases object with
  | @intro before blank after members isBlankBefore isBlank isBlankAfter written =>
      have text := unifyLines_objectText blank
        (fun member listed => (written member listed).reads.starts)
        fun member listed => (written member listed).unifyLines.2
      have starts := (Written.object isBlank written).reads.starts
      have ends : (objectText blank members).getLast? ≠ some '\r' :=
        (Written.object isBlank written).unifyLines.2
      have entries : (members.map Member.unify).map Member.entry = members.map Member.entry := by
        rw [List.map_map]
        rfl
      rw [List.append_assoc, starts.append.unifyLines_append, Text.unifyLines_append (.inl ends),
        text, ← List.append_assoc, ← entries]
      refine .intro (isBlank_unifyLines isBlankBefore) (isBlank_unifyLines isBlank)
        (isBlank_unifyLines isBlankAfter) (List.forall_mem_map.mpr fun member listed => ?_)
      exact (written member listed).unifyLines.1

end Json

end Typeset
