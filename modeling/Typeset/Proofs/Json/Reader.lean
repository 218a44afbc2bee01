import Typeset.Proofs.Json.Scan

/-!
# Reading what is written

Main statement: the reader reads every text of the grammar to its end and to the value that it
stands for.  The exception is a text with an integer of more digits than are read, which is refused
for that.
-/

namespace Typeset.Json

variable {α β : Type} {limit fuel : Nat} {cursor : Cursor} {text rest : List Char}

/-- A reading gives a result.  Where integers may have more digits than are read, it may be refused
for that instead. -/
def Yields (limit : Nat) (reading : Except Fault α) (result : α) : Prop :=
  reading = .ok result ∨ Number.digitLimit < limit ∧
    ∃ count position, reading = .error ⟨.tooManyDigits count, position⟩

theorem Yields.bind {first : Except Fault α} {middle : α} {later : α → Except Fault β} {result : β}
    (yields : Yields limit first middle) (goes : Yields limit (later middle) result) :
    Yields limit (first >>= later) result := by
  rcases yields with rfl | ⟨long, count, position, rfl⟩
  · exact goes
  · exact .inr ⟨long, count, position, rfl⟩

/-! ## First characters -/

/-- A character that is told from a byte order mark and from what may come before or after a
value. -/
structure Opens (c : Char) : Prop where
  solid : closes c = false
  notMark : c ≠ '\ufeff'

/-- The text has a first character, which is such a one. -/
def Starts (text : List Char) : Prop :=
  ∃ c, text.head? = some c ∧ Opens c

theorem Starts.append (starts : Starts text) : Starts (text ++ rest) := by
  obtain ⟨c, first, opens⟩ := starts
  exact ⟨c, by rw [List.head?_append, first]; rfl, opens⟩

theorem Starts.head?_ne {c : Char} (starts : Starts text) (ends : closes c = true) :
    text.head? ≠ some c := by
  obtain ⟨first, head, opens⟩ := starts
  rw [head]
  rintro ⟨rfl⟩
  cases ends.symm.trans opens.solid

theorem closes_of_isSpace {c : Char} (space : Cursor.isSpace c = true) : closes c = true := by
  simp [closes, space]

/-- White space comes before such a text and is no part of it. -/
theorem Starts.solid (starts : Starts text) : ∀ c ∈ text.head?, Cursor.isSpace c = false := by
  intro c first
  cases space : Cursor.isSpace c with
  | false => rfl
  | true => exact absurd first (starts.head?_ne (closes_of_isSpace space))

theorem closes_of_isDigit {c : Char} (digit : c.isDigit = true) : closes c = false := by
  cases ends : closes c with
  | false => rfl
  | true =>
      have isEnd : IsEnd [c] := by
        rintro _ ⟨rfl⟩
        exact ends
      cases digit.symm.trans (isEnd.noDigit c rfl)

theorem isEnd_cons {c : Char} (ends : closes c = true) : IsEnd (c :: rest) := by
  rintro _ ⟨rfl⟩
  exact ends

theorem isEnd_append {blank : List Char} (isBlank : IsBlank blank) (isEnd : IsEnd rest) :
    IsEnd (blank ++ rest) := by
  cases blank with
  | nil => exact isEnd
  | cons c others => exact isEnd_cons (closes_of_isSpace (isBlank c List.mem_cons_self))

/-- White space after a text is passed over. -/
theorem Cursor.skip_skipSpace {blank : List Char} (isBlank : IsBlank blank)
    (follows : cursor.rest = text ++ (blank ++ rest))
    (solid : ∀ c ∈ rest.head?, isSpace c = false) :
    (cursor.skip text.length).skipSpace = cursor.skip (text.length + blank.length) ∧
      (cursor.skip (text.length + blank.length)).rest = rest := by
  have after := rest_skip follows
  rw [skipSpace_eq isBlank after solid, ← skip_skip]
  exact ⟨rfl, rest_skip after⟩

/-- White space after a character is passed over. -/
theorem Cursor.skip_one_skipSpace {c : Char} {blank : List Char} (isBlank : IsBlank blank)
    (follows : cursor.rest = c :: (blank ++ rest)) (solid : ∀ c ∈ rest.head?, isSpace c = false) :
    (cursor.skip 1).skipSpace = cursor.skip (1 + blank.length) ∧
      (cursor.skip (1 + blank.length)).rest = rest := by
  have follows : cursor.rest = [c] ++ (blank ++ rest) := follows
  exact skip_skipSpace isBlank follows solid

/-! ## Words, numbers and strings -/

/-- A text is told from what may come before or after it, and is read in front of what may come
after it, with fuel for each of its characters. -/
structure Reads (limit : Nat) (text : List Char) (value : Value) : Prop where
  starts : Starts text
  yields : ∀ {fuel : Nat} {cursor : Cursor} {rest : List Char}, text.length ≤ fuel →
    cursor.rest = text ++ rest → IsEnd rest →
      Yields limit (readValue fuel cursor) (value, cursor.skip text.length)

/-- A text is read if it is read from its first character on. -/
theorem reads_of_first (first : Char) {value : Value} (opens : Opens first)
    (starts : ∃ others, text = first :: others)
    (yields : ∀ {fuel : Nat} {cursor : Cursor} {rest others : List Char}, text.length ≤ fuel + 1 →
      cursor.rest = text ++ rest → cursor.rest = first :: others → IsEnd rest →
        Yields limit (readValue (fuel + 1) cursor) (value, cursor.skip text.length)) :
    Reads limit text value := by
  obtain ⟨others, rfl⟩ := starts
  refine ⟨⟨first, rfl, opens⟩, fun {fuel cursor rest} enough follows isEnd => ?_⟩
  obtain ⟨fuel, rfl⟩ := Nat.exists_eq_add_one_of_ne_zero (Nat.ne_zero_of_lt enough)
  exact yields enough follows follows isEnd

/-- A character that may start a word or a number. -/
structure IsPlain (c : Char) : Prop where
  opens : Opens c
  notQuote : c ≠ '\x22'
  notBrace : c ≠ '\x7b'
  notBracket : c ≠ '['

theorem isPlain_of_isDigit {c : Char} (digit : c.isDigit = true) : IsPlain c where
  opens := ⟨closes_of_isDigit digit, ne_of_isDigit digit rfl⟩
  notQuote := ne_of_isDigit digit rfl
  notBrace := ne_of_isDigit digit rfl
  notBracket := ne_of_isDigit digit rfl

theorem isPlain_of_word {word : String} {value : Value} (listed : (word, value) ∈ words) :
    ∃ first others, word.toList = first :: others ∧ IsPlain first := by
  simp only [words, List.mem_cons, Prod.mk.injEq, List.not_mem_nil, or_false] at listed
  rcases listed with ⟨rfl, -⟩ | ⟨rfl, -⟩ | ⟨rfl, -⟩ | ⟨rfl, -⟩ | ⟨rfl, -⟩ | ⟨rfl, -⟩ <;>
    exact ⟨_, _, rfl, ⟨rfl, by decide⟩, by decide, by decide, by decide⟩

theorem Numeral.isPlain (numeral : Numeral) :
    ∃ first others, numeral.text = first :: others ∧ IsPlain first := by
  obtain ⟨digit, others, isDigit, text | text⟩ := numeral.exists_text_eq
  · exact ⟨digit, others, text, isPlain_of_isDigit isDigit⟩
  · exact ⟨'-', digit :: others, text, ⟨rfl, by decide⟩, by decide, by decide, by decide⟩

/-- A text that starts no string, list or object is read as a word or else as a number. -/
theorem readValue_of_plain {first : Char} {others : List Char} (plain : IsPlain first)
    (follows : cursor.rest = first :: others) :
    readValue (fuel + 1) cursor =
      match scanWord? cursor with
      | some result => .ok result
      | none =>
          match scanNumber? cursor with
          | some scanned => scanned.map fun (number, next) => (.number number, next)
          | none => cursor.fail .noValue := by
  rw [readValue, follows]
  split
  · rename_i same
    exact absurd (List.head_eq_of_cons_eq same) plain.notQuote
  · rename_i same
    exact absurd (List.head_eq_of_cons_eq same) plain.notBrace
  · rename_i same
    exact absurd (List.head_eq_of_cons_eq same) plain.notBracket
  · cases scanWord? cursor with
    | some result => rfl
    | none =>
        cases scanNumber? cursor with
        | none => rfl
        | some scanned => cases scanned <;> rfl

theorem scanWord?_eq_some {word : String} {value : Value} (listed : (word, value) ∈ words)
    (follows : cursor.rest = word.toList ++ rest) :
    scanWord? cursor = some (value, cursor.skip word.toList.length) := by
  simp only [words, List.mem_cons, Prod.mk.injEq, List.not_mem_nil, or_false] at listed
  rcases listed with ⟨rfl, rfl⟩ | ⟨rfl, rfl⟩ | ⟨rfl, rfl⟩ | ⟨rfl, rfl⟩ | ⟨rfl, rfl⟩ | ⟨rfl, rfl⟩ <;>
    simp [scanWord?, words, Cursor.expect?, follows] <;> rfl

theorem Numeral.scanWord?_eq_none (numeral : Numeral)
    (follows : cursor.rest = numeral.text ++ rest) : scanWord? cursor = none := by
  obtain ⟨digit, others, isDigit, text | text⟩ := numeral.exists_text_eq
  · have different : ∀ {c : Char}, c.isDigit = false → c ≠ digit :=
      fun noDigit => (ne_of_isDigit isDigit noDigit).symm
    simp [scanWord?, words, Cursor.expect?, follows, text, different]
  · have different : 'I' ≠ digit := (ne_of_isDigit isDigit rfl).symm
    simp [scanWord?, words, Cursor.expect?, follows, text, different]

theorem reads_word {word : String} {value : Value} (listed : (word, value) ∈ words) :
    Reads limit word.toList value := by
  obtain ⟨first, others, text, plain⟩ := isPlain_of_word listed
  refine reads_of_first first plain.opens ⟨others, text⟩ fun _ follows start _ => .inl ?_
  rw [readValue_of_plain plain start, scanWord?_eq_some listed follows]

theorem reads_number {numeral : Numeral} (fits : numeral.Fits limit) :
    Reads limit numeral.text (.number numeral.number) := by
  obtain ⟨first, others, text, plain⟩ := numeral.isPlain
  refine reads_of_first first plain.opens ⟨others, text⟩ fun _ follows start isEnd => ?_
  rw [readValue_of_plain plain start, numeral.scanWord?_eq_none follows,
    numeral.scanNumber?_eq isEnd follows]
  dsimp only
  split
  · rename_i long
    simp only [Bool.and_eq_true, decide_eq_true_eq] at long
    exact .inr ⟨Nat.lt_of_lt_of_le long.2 (fits long.1), _, _, rfl⟩
  · exact .inl rfl

theorem scanQuoted_eq {chars : List Char} (spells : StringText text chars)
    (follows : cursor.rest = quoted text ++ rest) :
    scanQuoted cursor = .ok (String.ofList chars, cursor.skip (quoted text).length) := by
  have inner : (cursor.skip 1).rest = text ++ '\x22' :: rest := by
    rw [Cursor.skip, follows, quoted]
    simp
  have size : 1 + (text.length + 1) = (quoted text).length := by
    simp only [quoted, List.length_append, List.length_cons, List.length_nil]
    omega
  have enough : text.length < cursor.rest.length + 1 := by
    rw [follows, List.length_append]
    omega
  rw [scanQuoted, scanText_eq spells enough inner, Cursor.skip_skip, size]
  rfl

theorem reads_string {chars : List Char} (spells : StringText text chars) :
    Reads limit (quoted text) (.text (String.ofList chars)) := by
  refine reads_of_first '\x22' ⟨rfl, by decide⟩ ⟨_, rfl⟩ fun _ follows quote _ => .inl ?_
  rw [readValue]
  simp only [quote, scanQuoted_eq spells follows]
  rfl

/-! ## Parts -/

section Parts

variable {opening closing : Char} {blank : List Char} {first next : Part} {others : List Part}

theorem partsText_cons :
    partsText first (next :: others) =
      first.body ++ ',' :: (next.before ++ partsText next others) := by
  simp [partsText, Part.whole]

theorem length_partsText_cons :
    (partsText first (next :: others)).length =
      first.body.length + (1 + next.before.length) + (partsText next others).length := by
  simp only [partsText_cons, List.length_append, List.length_cons]
  omega

theorem length_enclosed_nil :
    (enclosed opening closing blank []).length = 1 + blank.length + 1 := by
  simp only [enclosed, List.length_append, List.length_cons, List.length_nil]
  omega

theorem length_enclosed_cons :
    (enclosed opening closing blank (first :: others)).length =
      1 + first.before.length + ((partsText first others).length + 1) := by
  simp only [enclosed, List.length_append, List.length_cons, List.length_nil]
  omega

/-- White space before a part is passed over. -/
theorem Part.skipSpace_eq (starts : Starts first.body)
    (follows : cursor.rest = opening :: (first.before ++ (partsText first others ++ rest))) :
    (cursor.skip 1).skipSpace = cursor.skip (1 + first.before.length) ∧
      (cursor.skip (1 + first.before.length)).rest = partsText first others ++ rest :=
  Cursor.skip_one_skipSpace first.isBlank follows starts.append.append.solid

theorem skipSpace_of_enclosed_nil (isBlank : IsBlank blank)
    (solid : Cursor.isSpace closing = false)
    (follows : cursor.rest = enclosed opening closing blank [] ++ rest) :
    (cursor.skip 1).skipSpace = cursor.skip (1 + blank.length) ∧
      (cursor.skip (1 + blank.length)).rest = closing :: rest := by
  have bracket : cursor.rest = opening :: (blank ++ closing :: rest) := by
    rw [follows, enclosed]
    simp
  exact Cursor.skip_one_skipSpace isBlank bracket (by simp [solid])

theorem skipSpace_of_enclosed_cons (starts : Starts first.body)
    (follows : cursor.rest = enclosed opening closing blank (first :: others) ++ rest) :
    (cursor.skip 1).skipSpace = cursor.skip (1 + first.before.length) ∧
      (cursor.skip (1 + first.before.length)).rest =
        partsText first others ++ closing :: rest := by
  have bracket : cursor.rest =
      opening :: (first.before ++ (partsText first others ++ closing :: rest)) := by
    rw [follows, enclosed]
    simp
  exact Part.skipSpace_eq starts bracket

theorem exists_enclosed_eq (parts : List Part) :
    ∃ inner, enclosed opening closing blank parts = opening :: inner := by
  cases parts with
  | nil => exact ⟨_, rfl⟩
  | cons first others => exact ⟨_, rfl⟩

end Parts

/-! ## Lists -/

/-- What is read after an item. -/
def afterItem (fuel : Nat) (items : List Value) (after : Cursor) : Except Fault (Value × Cursor) :=
  match after.rest with
  | ']' :: _ => return (.list items.reverse, after.skip 1)
  | ',' :: _ => readItems fuel items (after.skip 1).skipSpace
  | _ => after.fail .noComma

theorem readItems_yields_of_after {item : Item} {c : Char} {read : List Value}
    {result : Value × Cursor} (reads : Reads limit item.text item.value)
    (enough : item.part.body.length ≤ fuel) (follows : cursor.rest = item.part.body ++ c :: rest)
    (ends : closes c = true) (solid : Cursor.isSpace c = false)
    (goes : Yields limit (afterItem fuel (item.value :: read) (cursor.skip item.part.body.length))
      result) : Yields limit (readItems (fuel + 1) read cursor) result := by
  rw [Item.part, List.append_assoc] at follows
  rw [Item.part, List.length_append] at enough
  obtain ⟨stops, -⟩ := Cursor.skip_skipSpace item.isBlankAfter follows (by simp [solid])
  have isEnd : IsEnd (item.after ++ c :: rest) :=
    isEnd_append item.isBlankAfter (isEnd_cons ends)
  rw [readItems]
  refine (reads.yields (by omega) follows isEnd).bind ?_
  dsimp only
  rw [stops, ← List.length_append]
  exact goes

/-- Items are read up to the closing bracket. -/
theorem readItems_yields {first : Item} {others : List Item}
    (reads : ∀ item ∈ first :: others, Reads limit item.text item.value) (read : List Value)
    (fuel : Nat) {cursor : Cursor}
    (enough : (partsText first.part (others.map Item.part)).length < fuel)
    (follows : cursor.rest = partsText first.part (others.map Item.part) ++ ']' :: rest) :
    Yields limit (readItems fuel read cursor)
      (.list (read.reverse ++ (first :: others).map Item.value),
        cursor.skip ((partsText first.part (others.map Item.part)).length + 1)) := by
  induction others generalizing first read fuel cursor with
  | nil =>
      obtain ⟨fuel, rfl⟩ := Nat.exists_eq_add_one_of_ne_zero (Nat.ne_zero_of_lt enough)
      have body : partsText first.part ([].map Item.part) = first.part.body := List.append_nil _
      rw [body] at enough follows ⊢
      refine readItems_yields_of_after (reads first List.mem_cons_self) (by omega) follows rfl rfl
        (.inl ?_)
      rw [afterItem, Cursor.rest_skip follows, Cursor.skip_skip, List.reverse_cons]
      rfl
  | cons next others ih =>
      obtain ⟨fuel, rfl⟩ := Nat.exists_eq_add_one_of_ne_zero (Nat.ne_zero_of_lt enough)
      obtain ⟨readsFirst, readsOthers⟩ := List.forall_mem_cons.mp reads
      have size : (partsText first.part ((next :: others).map Item.part)).length = _ :=
        length_partsText_cons
      rw [size] at enough ⊢
      simp only [List.map_cons, partsText_cons, List.append_assoc, List.cons_append] at follows
      have comma := Cursor.rest_skip follows
      obtain ⟨start, body⟩ := Part.skipSpace_eq
        (readsOthers next List.mem_cons_self).starts.append comma
      have goes := ih readsOthers (first.value :: read) fuel (by omega) body
      simp only [Cursor.skip_skip, List.reverse_cons, List.append_assoc] at goes
      refine readItems_yields_of_after readsFirst (by omega) follows rfl rfl ?_
      simp only [afterItem, comma]
      rw [start, Cursor.skip_skip]
      exact goes

theorem reads_list {blank : List Char} {items : List Item} (isBlank : IsBlank blank)
    (reads : ∀ item ∈ items, Reads limit item.text item.value) :
    Reads limit (listText blank items) (.list (items.map Item.value)) := by
  refine reads_of_first '[' ⟨rfl, by decide⟩ (exists_enclosed_eq _)
    fun {fuel _ _ _} enough follows bracket _ => ?_
  cases items with
  | nil =>
      obtain ⟨start, closing⟩ := skipSpace_of_enclosed_nil isBlank rfl follows
      have size : (listText blank []).length = 1 + blank.length + 1 := length_enclosed_nil
      rw [readValue, size, ← Cursor.skip_skip]
      simp only [bracket, start, closing]
      exact .inl rfl
  | cons first others =>
      have starts : Starts first.part.body := (reads first List.mem_cons_self).starts.append
      obtain ⟨start, body⟩ := skipSpace_of_enclosed_cons starts follows
      have size : (listText blank (first :: others)).length = _ := length_enclosed_cons
      rw [size] at enough ⊢
      have goes := readItems_yields reads [] fuel (by omega) body
      rw [readValue, ← Cursor.skip_skip]
      simp only [bracket, start, body]
      split
      · rename_i closing
        exact absurd (congrArg List.head? closing) (starts.append.append.head?_ne rfl)
      · exact goes

/-! ## Objects -/

/-- What is read after a member. -/
def afterMember (fuel : Nat) (members : List (String × Value)) (after : Cursor) :
    Except Fault (Value × Cursor) :=
  match after.rest with
  | '\x7d' :: _ => return (.object members, after.skip 1)
  | ',' :: _ => readMembers fuel members (after.skip 1).skipSpace
  | _ => after.fail .noComma

theorem readMembers_yields_of_after {member : Member} {c : Char} {read : List (String × Value)}
    {result : Value × Cursor} (reads : Reads limit member.item.text member.item.value)
    (enough : member.part.body.length ≤ fuel)
    (follows : cursor.rest = member.part.body ++ c :: rest) (ends : closes c = true)
    (solid : Cursor.isSpace c = false)
    (goes : Yields limit
      (afterMember fuel (putMember read member.entry.1 member.entry.2)
        (cursor.skip member.part.body.length)) result) :
    Yields limit (readMembers (fuel + 1) read cursor) result := by
  have size : member.part.body.length = (quoted member.spelling).length + member.between.length +
      (1 + member.item.before.length + (member.item.text.length + member.item.after.length)) := by
    simp only [Member.part, Part.whole, Item.part, List.length_append, List.length_cons]
    omega
  simp only [Member.part, Part.whole, Item.part, List.append_assoc, List.cons_append] at follows
  obtain ⟨afterName, colon⟩ := Cursor.skip_skipSpace member.isBlankBetween follows
    (by simp [Cursor.isSpace])
  obtain ⟨start, value⟩ := Cursor.skip_one_skipSpace member.item.isBlankBefore colon
    reads.starts.append.solid
  obtain ⟨stops, -⟩ := Cursor.skip_skipSpace member.item.isBlankAfter value (by simp [solid])
  have isEnd : IsEnd (member.item.after ++ c :: rest) :=
    isEnd_append member.item.isBlankAfter (isEnd_cons ends)
  obtain ⟨others, quote⟩ : ∃ others, cursor.rest = '\x22' :: others := ⟨_, follows⟩
  rw [readMembers]
  simp only [quote, scanQuoted_eq member.spells follows]
  dsimp only [bind, Except.bind]
  simp only [afterName, colon]
  rw [start]
  refine (reads.yields (by omega) value isEnd).bind ?_
  dsimp only
  rw [stops, Cursor.skip_skip, Cursor.skip_skip, ← size]
  exact goes

/-- Put members into an object one after the other. -/
def putMembers (read : List (String × Value)) (members : List Member) : List (String × Value) :=
  (members.map Member.entry).foldl (fun read entry => putMember read entry.1 entry.2) read

theorem starts_member (member : Member) : Starts member.part.body :=
  ⟨'\x22', rfl, rfl, by decide⟩

/-- Members are read up to the closing brace. -/
theorem readMembers_yields {first : Member} {others : List Member}
    (reads : ∀ member ∈ first :: others, Reads limit member.item.text member.item.value)
    (read : List (String × Value)) (fuel : Nat) {cursor : Cursor}
    (enough : (partsText first.part (others.map Member.part)).length < fuel)
    (follows : cursor.rest = partsText first.part (others.map Member.part) ++ '\x7d' :: rest) :
    Yields limit (readMembers fuel read cursor)
      (.object (putMembers read (first :: others)),
        cursor.skip ((partsText first.part (others.map Member.part)).length + 1)) := by
  induction others generalizing first read fuel cursor with
  | nil =>
      obtain ⟨fuel, rfl⟩ := Nat.exists_eq_add_one_of_ne_zero (Nat.ne_zero_of_lt enough)
      have body : partsText first.part ([].map Member.part) = first.part.body := List.append_nil _
      rw [body] at enough follows ⊢
      refine readMembers_yields_of_after (reads first List.mem_cons_self) (by omega) follows rfl rfl
        (.inl ?_)
      rw [afterMember, Cursor.rest_skip follows, Cursor.skip_skip]
      rfl
  | cons next others ih =>
      obtain ⟨fuel, rfl⟩ := Nat.exists_eq_add_one_of_ne_zero (Nat.ne_zero_of_lt enough)
      obtain ⟨readsFirst, readsOthers⟩ := List.forall_mem_cons.mp reads
      have size : (partsText first.part ((next :: others).map Member.part)).length = _ :=
        length_partsText_cons
      rw [size] at enough ⊢
      simp only [List.map_cons, partsText_cons, List.append_assoc, List.cons_append] at follows
      have comma := Cursor.rest_skip follows
      obtain ⟨start, body⟩ := Part.skipSpace_eq (starts_member next) comma
      have goes := ih readsOthers (putMember read first.entry.1 first.entry.2) fuel
        (by omega) body
      simp only [Cursor.skip_skip] at goes
      refine readMembers_yields_of_after readsFirst (by omega) follows rfl rfl ?_
      simp only [afterMember, comma]
      rw [start, Cursor.skip_skip]
      exact goes

theorem reads_object {blank : List Char} {members : List Member} (isBlank : IsBlank blank)
    (reads : ∀ member ∈ members, Reads limit member.item.text member.item.value) :
    Reads limit (objectText blank members) (.object (lastValues (members.map Member.entry))) := by
  refine reads_of_first '\x7b' ⟨rfl, by decide⟩ (exists_enclosed_eq _)
    fun {fuel _ _ _} enough follows brace _ => ?_
  cases members with
  | nil =>
      obtain ⟨start, closing⟩ := skipSpace_of_enclosed_nil isBlank rfl follows
      have size : (objectText blank []).length = 1 + blank.length + 1 := length_enclosed_nil
      rw [readValue, size, ← Cursor.skip_skip]
      simp only [brace, start, closing]
      exact .inl rfl
  | cons first others =>
      obtain ⟨start, body⟩ := skipSpace_of_enclosed_cons (starts_member first) follows
      have size : (objectText blank (first :: others)).length = _ := length_enclosed_cons
      rw [size] at enough ⊢
      have goes := readMembers_yields reads [] fuel (by omega) body
      rw [readValue, ← Cursor.skip_skip]
      simp only [brace, start, body]
      exact goes

/-! ## Texts -/

/-- Every text of the grammar is read. -/
theorem Written.reads {value : Value} (written : Written limit text value) :
    Reads limit text value := by
  induction written with
  | word listed => exact reads_word listed
  | string spells => exact reads_string spells
  | number fits => exact reads_number fits
  | list isBlank written ih => exact reads_list isBlank ih
  | object isBlank written ih => exact reads_object isBlank ih

theorem parse_of_head?_ne (noMark : text.head? ≠ some '\ufeff') :
    parse text = (do
      let (value, next) ← readValue (text.length + 1) (Cursor.skipSpace ⟨0, text⟩)
      let final := next.skipSpace
      if final.rest.isEmpty then return value else final.fail .extraData) := by
  unfold parse
  split
  · exact absurd rfl noMark
  · rfl

/-- A text with white space around it starts with no byte order mark. -/
theorem Starts.head?_append_ne {blank : List Char} (starts : Starts text)
    (isBlank : IsBlank blank) : (blank ++ text).head? ≠ some '\ufeff' := by
  cases blank with
  | nil =>
      obtain ⟨first, head, opens⟩ := starts
      rw [List.nil_append, head]
      rintro ⟨rfl⟩
      exact opens.notMark rfl
  | cons c others =>
      rintro ⟨rfl⟩
      cases isBlank _ List.mem_cons_self

/-- A text of a value with white space around it is read to its end. -/
theorem Written.parse_yields {before after : List Char} {value : Value}
    (written : Written limit text value) (isBlankBefore : IsBlank before)
    (isBlankAfter : IsBlank after) : Yields limit (parse (before ++ (text ++ after))) value := by
  have reads := written.reads
  let start : Cursor := ⟨0, before ++ (text ++ after)⟩
  have skipped : start.skipSpace = start.skip before.length :=
    Cursor.skipSpace_eq isBlankBefore rfl reads.starts.append.solid
  have body : (start.skip before.length).rest = text ++ after := Cursor.rest_skip rfl
  have isEnd : IsEnd after := by
    rw [← List.append_nil after]
    exact isEnd_append isBlankAfter nofun
  have enough : text.length ≤ (before ++ (text ++ after)).length + 1 := by
    simp only [List.length_append]
    omega
  have blank := (Cursor.rest_skip body).trans (List.append_nil after).symm
  have final := Cursor.skipSpace_eq isBlankAfter blank nofun
  rw [parse_of_head?_ne (reads.starts.append.head?_append_ne isBlankBefore), skipped]
  refine (reads.yields enough body isEnd).bind (.inl ?_)
  dsimp only
  rw [final, Cursor.rest_skip blank]
  rfl

/-- The text of an object is read as the last values of its names. -/
theorem ObjectText.parse_yields {entries : List (String × Value)}
    (object : ObjectText limit text entries) :
    Yields limit (parse text) (.object (lastValues entries)) := by
  cases object with
  | intro isBlankBefore isBlank isBlankAfter written =>
      rw [List.append_assoc]
      exact (Written.object isBlank written).parse_yields isBlankBefore isBlankAfter

end Typeset.Json
