import Typeset.Proofs.Html.Token

/-!
# Reading HTML

The reader goes through a text character by character.  It knows five character
references, attribute values between double quotes, and tags that a slash
closes.  Everything else that is special in HTML is refused: an angle bracket
that belongs to no tag, an ampersand that starts no reference, an attribute
without a value, a tag that is not finished.

Since nothing but a tag may hold an angle bracket, every `<` of a text that can
be read starts a tag, which can be read alone.
-/

namespace Typeset.Html

/-! ## Characters -/

/-- The character references by their names. -/
def references : List (List Char × Char) :=
  [("amp".toList, '&'), ("lt".toList, '<'), ("gt".toList, '>'), ("quot".toList, '\x22'),
    ("#x27".toList, '\x27')]

/-- Whether a character may stand in the name of a reference. -/
def isReferenceChar (c : Char) : Bool :=
  c.isAlphanum || c == '#'

/-- Whether a character may stand in the name of an attribute: any visible ASCII
character that does not end the name. -/
def isAttributeChar (c : Char) : Bool :=
  0x20 < c.toNat && c.toNat < 0x7F &&
    !(c == '\x22' || c == '\x27' || c == '<' || c == '>' || c == '/' || c == '=')

/-- Whether a text is the name of a tag: an ASCII letter, and letters and digits
after it. -/
def isTagName (name : String) : Bool :=
  name.toList.head?.any Char.isAlpha && name.toList.all Char.isAlphanum

/-- Whether a text is the name of an attribute. -/
def isAttributeName (name : String) : Bool :=
  !name.toList.isEmpty && name.toList.all isAttributeChar

/-! ## The reader -/

/-- An opening tag that is being read. -/
structure Tag where
  name : String
  attributes : List Attribute

/-- What the reader expects. -/
inductive Mode where
  | text
  /-- The rest of a reference in a text. -/
  | reference (name : List Char)
  /-- The name of a tag, or a slash before it. -/
  | tagStart
  | closingName (name : List Char)
  | openingName (name : List Char)
  /-- The end of a tag, or a space before an attribute. -/
  | tagEnd (tag : Tag)
  /-- An attribute, or the slash that closes a tag. -/
  | space (tag : Tag)
  | attributeName (tag : Tag) (name : List Char)
  /-- The quote that opens the value of an attribute. -/
  | quote (tag : Tag) (name : String)
  | value (tag : Tag) (name : String) (content : List Char)
  /-- The rest of a reference in the value of an attribute. -/
  | valueReference (tag : Tag) (name : String) (content short : List Char)
  /-- The end of a tag after its slash. -/
  | slash (tag : Tag)

/-- What follows the name of a tag or the value of an attribute. -/
def Tag.step (tag : Tag) (c : Char) : Option (Mode × List Token) :=
  if c == ' ' then some (.space tag, [])
  else if c == '>' then some (.text, [.opening tag.name tag.attributes])
  else none

/-- Read a character: the next mode, and the token that is complete. -/
def Mode.step : Mode → Char → Option (Mode × List Token)
  | text, c =>
      if c == '<' then some (tagStart, [])
      else if c == '&' then some (reference [], [])
      else if c == '>' then none
      else some (text, [.text (String.ofList [c])])
  | reference name, c =>
      if c == ';' then
        (references.lookup name).map fun meant => (text, [.text (String.ofList [meant])])
      else if isReferenceChar c then some (reference (name ++ [c]), [])
      else none
  | tagStart, c =>
      if c == '/' then some (closingName [], [])
      else if c.isAlpha then some (openingName [c], [])
      else none
  | closingName name, c =>
      if c == '>' && !name.isEmpty then some (text, [.closing (String.ofList name)])
      else if (if name.isEmpty then c.isAlpha else c.isAlphanum) then
        some (closingName (name ++ [c]), [])
      else none
  | openingName name, c =>
      if c.isAlphanum then some (openingName (name ++ [c]), [])
      else Tag.step ⟨String.ofList name, []⟩ c
  | tagEnd tag, c => tag.step c
  | space tag, c =>
      if c == '/' then some (slash tag, [])
      else if isAttributeChar c then some (attributeName tag [c], [])
      else none
  | attributeName tag name, c =>
      if c == '=' then some (quote tag (String.ofList name), [])
      else if isAttributeChar c then some (attributeName tag (name ++ [c]), [])
      else none
  | quote tag name, c => if c == '\x22' then some (value tag name [], []) else none
  | value tag name content, c =>
      if c == '\x22' then
        some (tagEnd { tag with attributes := tag.attributes ++ [(name, String.ofList content)] },
          [])
      else if c == '&' then some (valueReference tag name content [], [])
      else if c == '<' || c == '>' then none
      else some (value tag name (content ++ [c]), [])
  | valueReference tag name content short, c =>
      if c == ';' then
        (references.lookup short).map fun meant => (value tag name (content ++ [meant]), [])
      else if isReferenceChar c then some (valueReference tag name content (short ++ [c]), [])
      else none
  | slash tag, c => if c == '>' then some (text, [.single tag.name tag.attributes]) else none

/-- A mode, and the tokens that were read. -/
structure State where
  mode : Mode
  read : Gathered

namespace State

/-- Before anything is read. -/
def start : State :=
  ⟨.text, .empty⟩

/-- Read a character. -/
def step (state : State) (c : Char) : Option State :=
  (state.mode.step c).map fun (mode, tokens) => ⟨mode, state.read.pushAll tokens⟩

/-- Read characters one after the other. -/
def run (state : State) (text : List Char) : Option State :=
  text.foldlM step state

@[simp]
theorem run_nil (state : State) : state.run [] = some state :=
  rfl

@[simp]
theorem run_cons (state : State) (c : Char) (text : List Char) :
    state.run (c :: text) = (state.step c).bind fun next => next.run text :=
  rfl

@[simp]
theorem run_append (state : State) (first second : List Char) :
    state.run (first ++ second) = (state.run first).bind fun next => next.run second :=
  List.foldlM_append

end State

/-- Read a text, which must not end inside a tag or a reference. -/
def read (text : String) : Option (List Token) :=
  match State.start.run text.toList with
  | some ⟨.text, tokens⟩ => some tokens.reversed.reverse
  | _ => none

theorem read_eq_some_iff {text : String} {tokens : List Token} :
    read text = some tokens ↔
      ∃ gathered, State.start.run text.toList = some ⟨.text, gathered⟩ ∧
        tokens = gathered.reversed.reverse := by
  unfold read
  split
  · rename_i gathered reached
    simp [reached, eq_comm]
  · rename_i unfinished
    simp only [reduceCtorEq, false_iff, not_exists, not_and]
    intro gathered reached
    exact absurd reached (unfinished gathered)

/-! ## Tags -/

/-- Whether the reader is inside a tag. -/
def Mode.insideTag : Mode → Bool
  | text | reference _ => false
  | _ => true

theorem Tag.step_eq_some {tag : Tag} {c : Char} {next : Mode} {tokens : List Token}
    (stepped : tag.step c = some (next, tokens)) :
    (next.insideTag = true ∧ tokens = []) ∨
      (next = .text ∧ tokens = [.opening tag.name tag.attributes]) := by
  unfold Tag.step at stepped
  split at stepped
  · cases stepped
    exact .inl ⟨rfl, rfl⟩
  · split at stepped
    · cases stepped
      exact .inr ⟨rfl, rfl⟩
    · contradiction

/-- Inside a tag a character leads on inside it or completes the tag. -/
theorem Mode.step_insideTag {mode next : Mode} {c : Char} {tokens : List Token}
    (inside : mode.insideTag = true) (stepped : mode.step c = some (next, tokens)) :
    (next.insideTag = true ∧ tokens = []) ∨
      (next = .text ∧ ∃ tag, tokens = [tag] ∧ tag.isTag = true) := by
  have ofTag : ∀ {tag : Tag}, tag.step c = some (next, tokens) →
      (next.insideTag = true ∧ tokens = []) ∨
        (next = .text ∧ ∃ tag, tokens = [tag] ∧ tag.isTag = true) := by
    intro tag tagStepped
    rcases Tag.step_eq_some tagStepped with onward | ⟨atText, complete⟩
    · exact .inl onward
    · exact .inr ⟨atText, _, complete, rfl⟩
  cases mode with
  | text => contradiction
  | reference name => contradiction
  | tagEnd tag => exact ofTag stepped
  | openingName name =>
      simp only [step] at stepped
      split at stepped
      · cases stepped
        exact .inl ⟨rfl, rfl⟩
      · exact ofTag stepped
  | valueReference tag name content short =>
      simp only [step] at stepped
      split at stepped
      · obtain ⟨meant, -, reached⟩ := Option.map_eq_some_iff.mp stepped
        cases reached
        exact .inl ⟨rfl, rfl⟩
      · split at stepped
        · cases stepped
          exact .inl ⟨rfl, rfl⟩
        · contradiction
  | _ =>
      simp only [step] at stepped
      repeat' split at stepped
      all_goals first | contradiction | cases stepped
      all_goals first | exact .inl ⟨rfl, rfl⟩ | exact .inr ⟨rfl, _, rfl, rfl⟩

/-- Nothing but a tag holds an opening angle bracket, as its first character. -/
theorem Mode.step_lt {mode next : Mode} {tokens : List Token}
    (stepped : mode.step '<' = some (next, tokens)) :
    mode = .text ∧ next = .tagStart ∧ tokens = [] := by
  have noName : isAttributeChar '<' = false := by decide
  have noReference : isReferenceChar '<' = false := by decide
  have noLetter : '<'.isAlpha = false := by decide
  have noLetterOrDigit : '<'.isAlphanum = false := by decide
  cases mode with
  | text =>
      cases stepped
      exact ⟨rfl, rfl, rfl⟩
  | closingName name => cases name <;> simp [step, noLetter, noLetterOrDigit] at stepped
  | _ =>
      simp [step, Tag.step, noName, noReference, noLetter, noLetterOrDigit] at stepped

namespace State

/-- Inside a tag the reader reads on to the end of the tag, whatever it has read
before. -/
theorem run_insideTag {mode : Mode} {read last : Gathered} {text : List Char}
    (inside : mode.insideTag = true) (reached : run ⟨mode, read⟩ text = some ⟨.text, last⟩) :
    ∃ word rest tag, text = word ++ rest ∧ tag.isTag = true ∧
      (∀ before, run ⟨mode, before⟩ word = some ⟨.text, before.push tag⟩) ∧
      run ⟨.text, read.push tag⟩ rest = some ⟨.text, last⟩ := by
  induction text generalizing mode read with
  | nil =>
      cases reached
      contradiction
  | cons c text ih =>
      rw [run_cons] at reached
      obtain ⟨state, stepped, reached⟩ := Option.bind_eq_some_iff.mp reached
      obtain ⟨⟨next, tokens⟩, modeStepped, rfl⟩ := Option.map_eq_some_iff.mp stepped
      rcases Mode.step_insideTag inside modeStepped with ⟨stillInside, rfl⟩ | ⟨rfl, tag, rfl, isTag⟩
      · obtain ⟨word, rest, tag, rfl, isTag, readsWord, readsRest⟩ := ih stillInside reached
        refine ⟨c :: word, rest, tag, rfl, isTag, ?_, readsRest⟩
        intro before
        simp [step, modeStepped, readsWord]
      · refine ⟨[c], text, tag, rfl, isTag, ?_, reached⟩
        intro before
        simp [step, modeStepped]

/-- What is read later keeps the tags that were read before. -/
theorem mem_reversed_run {tag : Token} (isTag : tag.isTag = true) {state last : State}
    {text : List Char} (reached : state.run text = some last)
    (member : tag ∈ state.read.reversed) : tag ∈ last.read.reversed := by
  induction text generalizing state with
  | nil =>
      cases reached
      exact member
  | cons c text ih =>
      rw [run_cons] at reached
      obtain ⟨next, stepped, reached⟩ := Option.bind_eq_some_iff.mp reached
      obtain ⟨⟨mode, tokens⟩, -, rfl⟩ := Option.map_eq_some_iff.mp stepped
      exact ih reached (Gathered.mem_reversed_pushAll isTag member tokens)

end State

/-- Every opening angle bracket of a text that can be read starts a tag: with the
characters after it up to the end of that tag it reads as that tag alone. -/
theorem read_lt {text : String} {tokens : List Token} (readable : read text = some tokens)
    {before after : List Char} (split : text.toList = before ++ '<' :: after) :
    ∃ word rest tag, after = word ++ rest ∧ tag ∈ tokens ∧ tag.isTag = true ∧
      read (String.ofList ('<' :: word)) = some [tag] := by
  obtain ⟨gathered, reached, rfl⟩ := read_eq_some_iff.mp readable
  rw [split, State.run_append] at reached
  obtain ⟨⟨mode, earlier⟩, -, reached⟩ := Option.bind_eq_some_iff.mp reached
  obtain ⟨state, stepped, reached⟩ := Option.bind_eq_some_iff.mp reached
  obtain ⟨⟨next, found⟩, modeStepped, rfl⟩ := Option.map_eq_some_iff.mp stepped
  obtain ⟨rfl, rfl, rfl⟩ := Mode.step_lt modeStepped
  obtain ⟨word, rest, tag, rfl, isTag, readsWord, readsRest⟩ :=
    State.run_insideTag rfl reached
  refine ⟨word, rest, tag, rfl, ?_, isTag, ?_⟩
  · apply List.mem_reverse.mpr
    apply State.mem_reversed_run isTag readsRest
    simp [Gathered.push_of_isTag isTag, Gathered.reversed]
  · apply read_eq_some_iff.mpr
    refine ⟨Gathered.empty.push tag, ?_, ?_⟩
    · rw [String.toList_ofList]
      exact readsWord .empty
    · simp [Gathered.push_of_isTag isTag, Gathered.reversed, Gathered.empty]

end Typeset.Html
