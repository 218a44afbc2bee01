import Typeset.Style.Declaration

/-!
# Reading style sheets

The reader goes through a style sheet character by character.  It knows comments
between blocks, the declarations of a block, and strings and brackets in their
values.  Everything else that is special in a style sheet is refused: a block in a
block, an escape, a comment inside a block, a bracket that closes nothing, a
declaration that no semicolon ends.
-/

namespace Typeset.Css

/-! ## Values -/

/-- What is open in a value. -/
inductive Nesting where
  /-- Brackets, by the characters that close them, the innermost first. -/
  | brackets (closers : List Char)
  | string (quote : Char)
  deriving DecidableEq

namespace Nesting

/-- Nothing is open. -/
def outside : Nesting :=
  brackets []

/-- Read a character of a value that does not end there.  Strings stand outside all
brackets. -/
def step : Nesting → Char → Option Nesting
  | string quote, c =>
      if c == quote then some outside
      else if c == '\\' || c == '\n' || c == '\r' || c == '\x0c' then none
      else some (string quote)
  | brackets closers, c =>
      if c == '\x22' || c == '\x27' then
        if closers.isEmpty then some (string c) else none
      else if c == '(' then some (brackets (')' :: closers))
      else if c == '[' then some (brackets (']' :: closers))
      else if c == ')' || c == ']' then
        if closers.head? = some c then some (brackets closers.tail) else none
      else if c == ';' || c == '\x7b' || c == '\x7d' || c == '\\' || c == '*' then none
      else some (brackets closers)

/-- Read characters one after the other. -/
def run (nesting : Nesting) (text : List Char) : Option Nesting :=
  text.foldlM step nesting

@[simp]
theorem run_cons (nesting : Nesting) (c : Char) (text : List Char) :
    nesting.run (c :: text) = (nesting.step c).bind fun next => next.run text :=
  rfl

@[simp]
theorem run_append (nesting : Nesting) (first second : List Char) :
    nesting.run (first ++ second) = (nesting.run first).bind fun next => next.run second :=
  List.foldlM_append

end Nesting

/-- A text that is taken for a value: it closes what it opens, and holds nothing that
ends the declaration before.  Stars, escapes, and strings in brackets are left out, though
some values of style sheets have them. -/
def IsValue (text : String) : Prop :=
  Nesting.outside.run text.toList = some .outside

instance (text : String) : Decidable (IsValue text) :=
  inferInstanceAs (Decidable (_ = _))

namespace IsValue

theorem append {first second : String} (firstValue : IsValue first)
    (secondValue : IsValue second) : IsValue (first ++ second) := by
  unfold IsValue
  rw [String.toList_append, Nesting.run_append, firstValue, Option.bind_some, secondValue]

/-- Characters that are not special make a value. -/
theorem of_forall_mem {text : String}
    (ordinary : ∀ c ∈ text.toList, Nesting.outside.step c = some .outside) : IsValue text := by
  unfold IsValue
  revert ordinary
  induction text.toList with
  | nil => exact fun _ => rfl
  | cons c chars ih =>
      intro ordinary
      obtain ⟨first, others⟩ := List.forall_mem_cons.mp ordinary
      rw [Nesting.run_cons, first, Option.bind_some, ih others]

end IsValue

/-! ## The reader -/

/-- A block that was read: the text in front of its opening brace and its
declarations, each with the text between its colon and its semicolon. -/
structure Block where
  selector : String
  declarations : Declarations
  deriving DecidableEq

namespace Block

/-- A block with one more declaration at its end. -/
def add (block : Block) (declaration : Declaration) : Block :=
  { block with declarations := block.declarations ++ [declaration] }

/-- A block without the values of its declarations. -/
def outline (block : Block) : String × List String :=
  (block.selector, block.declarations.map Prod.fst)

end Block

/-- Whether a character may separate blocks and declarations. -/
def isBlank (c : Char) : Bool :=
  c == ' ' || c == '\n'

/-- Whether a character may start a selector. -/
def isSelectorChar (c : Char) : Bool :=
  c.isAlphanum || c == '.' || c == '-'

/-- Whether a character may stand in the name of a property. -/
def isNameChar (c : Char) : Bool :=
  c.isAlpha || c == '-'

/-- What the reader expects. -/
inductive Mode where
  /-- A comment or a block. -/
  | outside
  /-- The second character of a comment. -/
  | slash
  | comment
  /-- The end of a comment, after a star. -/
  | star
  | selector (text : List Char)
  /-- A declaration, or the end of the block. -/
  | inside (block : Block)
  | property (block : Block) (text : List Char)
  | value (block : Block) (name : String) (nesting : Nesting) (text : List Char)

/-- Read a character: the next mode, and the block that is complete. -/
def Mode.step : Mode → Char → Option (Mode × List Block)
  | outside, c =>
      if isBlank c then some (outside, [])
      else if c == '/' then some (slash, [])
      else if isSelectorChar c then some (selector [c], [])
      else none
  | slash, c => if c == '*' then some (comment, []) else none
  | comment, c => some (if c == '*' then star else comment, [])
  | star, c =>
      some (if c == '/' then outside else if c == '*' then star else comment, [])
  | selector text, c =>
      if c == '\x7b' then some (inside ⟨String.ofList text, []⟩, [])
      else if isSelectorChar c || c == ' ' then some (selector (text ++ [c]), [])
      else none
  | inside block, c =>
      if isBlank c then some (inside block, [])
      else if c == '\x7d' then some (outside, [block])
      else if isNameChar c then some (property block [c], [])
      else none
  | property block text, c =>
      if c == ':' then some (value block (String.ofList text) .outside [], [])
      else if isNameChar c then some (property block (text ++ [c]), [])
      else none
  | value block name nesting text, c =>
      if c == ';' && nesting == .outside then
        some (inside (block.add (name, String.ofList text)), [])
      else (nesting.step c).map fun next => (value block name next (text ++ [c]), [])

/-- A mode, and the blocks that were read. -/
structure State where
  mode : Mode
  read : List Block

namespace State

/-- Read a character. -/
def step (state : State) (c : Char) : Option State :=
  (state.mode.step c).map fun (mode, blocks) => ⟨mode, state.read ++ blocks⟩

/-- Read characters one after the other. -/
def run (state : State) (text : List Char) : Option State :=
  text.foldlM step state

@[simp]
theorem run_nil (state : State) : state.run [] = some state :=
  rfl

@[simp]
theorem run_cons (state : State) (c : Char) (text : List Char) :
    state.run (c :: text) = (state.step c).bind fun next => next.run text :=
  rfl

@[simp]
theorem run_append (state : State) (first second : List Char) :
    state.run (first ++ second) = (state.run first).bind fun next => next.run second :=
  List.foldlM_append

end State

/-- Read a style sheet, which must not end inside a block or a comment. -/
def read (css : String) : Option (List Block) :=
  match State.run ⟨.outside, []⟩ css.toList with
  | some ⟨.outside, blocks⟩ => some blocks
  | _ => none

/-! ## Reading what was written -/

/-- Whether a text is a selector. -/
def isSelector (text : String) : Bool :=
  text.toList.head?.any isSelectorChar && text.toList.all fun c => isSelectorChar c || c == ' '

/-- Whether a text is the name of a property. -/
def isName (text : String) : Bool :=
  !text.toList.isEmpty && text.toList.all isNameChar

theorem isBlank_eq_false {isValid : Char → Bool} {c : Char} (valid : isValid c = true)
    (space : isValid ' ' = false) (lineFeed : isValid '\n' = false) : isBlank c = false := by
  apply Bool.eq_false_iff.mpr
  intro blank
  rcases Bool.or_eq_true_iff.mp blank with isSpace | isLineFeed
  · cases eq_of_beq isSpace
    exact absurd valid (Bool.eq_false_iff.mp space)
  · cases eq_of_beq isLineFeed
    exact absurd valid (Bool.eq_false_iff.mp lineFeed)

variable {read : List Block}

/-- A selector is read up to the brace that opens its block. -/
theorem run_selector {selector : String} (valid : isSelector selector = true) :
    State.run ⟨.outside, read⟩ (selector.toList ++ ['\x7b']) =
      some ⟨.inside ⟨selector, []⟩, read⟩ := by
  have others : ∀ text rest : List Char, (rest.all fun c => isSelectorChar c || c == ' ') = true →
      State.run ⟨.selector text, read⟩ (rest ++ ['\x7b']) =
        some ⟨.inside ⟨String.ofList (text ++ rest), []⟩, read⟩ := by
    intro text rest allChars
    induction rest generalizing text with
    | nil => simp [State.step, Mode.step]
    | cons c rest ih =>
        rw [List.all_cons, Bool.and_eq_true] at allChars
        have notBrace : c ≠ '\x7b' := by
          rintro rfl
          exact absurd allChars.1 (by decide)
        have stepped : State.step ⟨.selector text, read⟩ c =
            some ⟨.selector (text ++ [c]), read⟩ := by
          simp only [State.step, Mode.step, beq_eq_false_iff_ne.mpr notBrace, allChars.1]
          simp
        rw [List.cons_append, State.run_cons, stepped, Option.bind_some, ih _ allChars.2,
          List.append_assoc]
        rfl
  unfold isSelector at valid
  cases spelled : selector.toList with
  | nil => simp [spelled] at valid
  | cons c rest =>
      simp only [spelled, List.head?_cons, Option.any_some, List.all_cons, Bool.and_eq_true]
        at valid
      have notBlank := isBlank_eq_false valid.1 (by decide) (by decide)
      have notSlash : c ≠ '/' := by
        rintro rfl
        exact absurd valid.1 (by decide)
      have stepped : State.step ⟨.outside, read⟩ c = some ⟨.selector [c], read⟩ := by
        simp [State.step, Mode.step, notBlank, notSlash, valid.1]
      rw [List.cons_append, State.run_cons, stepped, Option.bind_some, others _ _ valid.2.2,
        List.singleton_append, ← spelled, String.ofList_toList]

/-- The name of a property is read up to its colon. -/
theorem run_name {block : Block} {name : String} (valid : isName name = true) :
    State.run ⟨.inside block, read⟩ (name.toList ++ [':']) =
      some ⟨.value block name .outside [], read⟩ := by
  have others : ∀ text rest : List Char, rest.all isNameChar = true →
      State.run ⟨.property block text, read⟩ (rest ++ [':']) =
        some ⟨.value block (String.ofList (text ++ rest)) .outside [], read⟩ := by
    intro text rest allChars
    induction rest generalizing text with
    | nil => simp [State.step, Mode.step]
    | cons c rest ih =>
        rw [List.all_cons, Bool.and_eq_true] at allChars
        have notColon : c ≠ ':' := by
          rintro rfl
          exact absurd allChars.1 (by decide)
        have stepped : State.step ⟨.property block text, read⟩ c =
            some ⟨.property block (text ++ [c]), read⟩ := by
          simp [State.step, Mode.step, notColon, allChars.1]
        rw [List.cons_append, State.run_cons, stepped, Option.bind_some, ih _ allChars.2,
          List.append_assoc]
        rfl
  simp only [isName, Bool.and_eq_true, Bool.not_eq_true', List.isEmpty_eq_false_iff] at valid
  obtain ⟨c, rest, spelled⟩ := List.exists_cons_of_ne_nil valid.1
  have allChars := valid.2
  rw [spelled, List.all_cons, Bool.and_eq_true] at allChars
  have notBlank := isBlank_eq_false allChars.1 (by decide) (by decide)
  have notBrace : c ≠ '\x7d' := by
    rintro rfl
    exact absurd allChars.1 (by decide)
  have stepped : State.step ⟨.inside block, read⟩ c = some ⟨.property block [c], read⟩ := by
    simp [State.step, Mode.step, notBlank, notBrace, allChars.1]
  rw [spelled, List.cons_append, State.run_cons, stepped, Option.bind_some, others _ _ allChars.2,
    List.singleton_append, ← spelled, String.ofList_toList]

/-- Inside a value a semicolon is no exception: whatever the nesting allows is read. -/
theorem step_value {block : Block} {name : String} {nesting next : Nesting} {c : Char}
    (stepped : nesting.step c = some next) (text : List Char) :
    State.step ⟨.value block name nesting text, read⟩ c =
      some ⟨.value block name next (text ++ [c]), read⟩ := by
  have goesOn : (c == ';' && nesting == .outside) = false := by
    apply Bool.eq_false_iff.mpr
    intro ends
    obtain ⟨semicolon, nothingOpen⟩ := Bool.and_eq_true_iff.mp ends
    cases eq_of_beq semicolon
    cases eq_of_beq nothingOpen
    contradiction
  simp [State.step, Mode.step, goesOn, stepped]

/-- A value is read as far as its nesting allows. -/
theorem run_value {block : Block} {name : String} {nesting last : Nesting} {chars : List Char}
    (reached : nesting.run chars = some last) (text : List Char) :
    State.run ⟨.value block name nesting text, read⟩ chars =
      some ⟨.value block name last (text ++ chars), read⟩ := by
  induction chars generalizing nesting text with
  | nil =>
      cases reached
      simp
  | cons c chars ih =>
      rw [Nesting.run_cons] at reached
      obtain ⟨next, stepped, reached⟩ := Option.bind_eq_some_iff.mp reached
      rw [State.run_cons, step_value stepped, Option.bind_some, ih reached, List.append_assoc]
      rfl

/-- A declaration is read to its semicolon. -/
theorem run_declaration {block : Block} {name value : String} (valid : isName name = true)
    (isValue : IsValue value) :
    State.run ⟨.inside block, read⟩ (name ++ ":" ++ value ++ ";").toList =
      some ⟨.inside (block.add (name, value)), read⟩ := by
  have spelled : (name ++ ":" ++ value ++ ";").toList =
      (name.toList ++ [':']) ++ (value.toList ++ [';']) := by
    simp
  have ended : State.run ⟨.value block name .outside ([] ++ value.toList), read⟩ [';'] =
      some ⟨.inside (block.add (name, value)), read⟩ := by
    simp [State.step, Mode.step]
  rw [spelled, State.run_append, run_name valid, Option.bind_some, State.run_append,
    run_value isValue, Option.bind_some, ended]

end Typeset.Css
