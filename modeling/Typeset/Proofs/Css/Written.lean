import Typeset.Proofs.Css.Reader
import Typeset.Stylesheet

/-!
# Style sheets read as they were written

A style sheet is read block by block, and a block declaration by declaration, as long
as no value ends its declaration before the flag that gives it precedence.  Then the
flag is the end of every value that is read.
-/

namespace Typeset.Css

universe u v

/-- What holds of no text, of texts side by side and of a separator holds of texts
with the separator between them. -/
theorem intercalate_induction {α : Type u} {β : Type v} {holds : String → List α → Prop}
    (nil : holds "" [])
    (append : ∀ {first second : String} {items others : List α}, holds first items →
      holds second others → holds (first ++ second) (items ++ others))
    {separator : String} (between : holds separator []) {text : β → String} {items : β → List α}
    {parts : List β} (each : ∀ part ∈ parts, holds (text part) (items part)) :
    holds (separator.intercalate (parts.map text)) (parts.flatMap items) := by
  induction parts with
  | nil => exact nil
  | cons part parts ih =>
      obtain ⟨first, others⟩ := List.forall_mem_cons.mp each
      cases parts with
      | nil => simpa using first
      | cons next parts =>
          have nonempty : (next :: parts).map text ≠ [] := by simp
          rw [List.map_cons, String.intercalate_cons_of_ne_nil nonempty, List.flatMap_cons]
          simpa using append (append first between) (ih others)

/-! ## Declarations -/

/-- A declaration as it stands in a block, with the blank after its colon. -/
def important (declaration : Declaration) : Declaration :=
  (declaration.1, " " ++ declaration.2 ++ " !important")

/-- Some text between the braces of a block reads as declarations. -/
def ReadsDeclarations (text : String) (declarations : Declarations) : Prop :=
  ∀ block read, State.run ⟨.inside block, read⟩ text.toList =
    some ⟨.inside { block with declarations := block.declarations ++ declarations }, read⟩

namespace ReadsDeclarations

theorem nil : ReadsDeclarations "" [] := by
  intro block read
  simp

theorem append {first second : String} {declarations others : Declarations}
    (readsFirst : ReadsDeclarations first declarations)
    (readsSecond : ReadsDeclarations second others) :
    ReadsDeclarations (first ++ second) (declarations ++ others) := by
  intro block read
  rw [String.toList_append, State.run_append, readsFirst, Option.bind_some, readsSecond,
    List.append_assoc]

theorem lineFeed : ReadsDeclarations "\n" [] := by
  intro block read
  simp [State.step, Mode.step, isBlank]

/-- A line reads as its declaration. -/
theorem line {declaration : Declaration} (valid : isName declaration.1 = true)
    (isValue : IsValue declaration.2) :
    ReadsDeclarations (Declarations.line declaration) [important declaration] := by
  intro block read
  have flagged : IsValue (important declaration).2 :=
    (IsValue.append (by decide) isValue).append (by decide)
  have spelled : (Declarations.line declaration).toList =
      [' ', ' '] ++ (declaration.1 ++ ":" ++ (important declaration).2 ++ ";").toList := by
    simp [Declarations.line, important]
  have indented : State.run ⟨.inside block, read⟩ [' ', ' '] = some ⟨.inside block, read⟩ := by
    simp [State.step, Mode.step, isBlank]
  rw [spelled, State.run_append, indented, Option.bind_some, run_declaration valid flagged]
  rfl

/-- A value with a semicolon, a name and a colon in it reads as two declarations, and
only the second one has the flag. -/
theorem line_of_two {property value name rest : String} (validProperty : isName property = true)
    (isValue : IsValue value) (validName : isName name = true) (isRest : IsValue rest) :
    ReadsDeclarations (Declarations.line (property, value ++ ";" ++ name ++ ":" ++ rest))
      [(property, " " ++ value), (name, rest ++ " !important")] := by
  intro block read
  have blank : IsValue (" " ++ value) := IsValue.append (by decide) isValue
  have flagged : IsValue (rest ++ " !important") := isRest.append (by decide)
  have spelled : (Declarations.line (property, value ++ ";" ++ name ++ ":" ++ rest)).toList =
      [' ', ' '] ++ (property ++ ":" ++ (" " ++ value) ++ ";").toList ++
        (name ++ ":" ++ (rest ++ " !important") ++ ";").toList := by
    simp [Declarations.line]
  have indented : State.run ⟨.inside block, read⟩ [' ', ' '] = some ⟨.inside block, read⟩ := by
    simp [State.step, Mode.step, isBlank]
  rw [spelled, State.run_append, State.run_append, indented, Option.bind_some,
    run_declaration validProperty blank, Option.bind_some, run_declaration validName flagged]
  simp [Block.add]

/-- The lines of a block read as its declarations. -/
theorem body {declarations : Declarations}
    (names : ∀ declaration ∈ declarations, isName declaration.1 = true)
    (values : ∀ declaration ∈ declarations, IsValue declaration.2) :
    ReadsDeclarations declarations.body (declarations.map important) := by
  rw [List.map_eq_flatMap]
  apply intercalate_induction nil append lineFeed
  intro declaration member
  exact line (names declaration member) (values declaration member)

end ReadsDeclarations

/-! ## Blocks -/

/-- A block as it is read, with the blank in front of its brace. -/
def asRead (block : String × Declarations) : Block :=
  ⟨block.1 ++ " ", block.2.map important⟩

/-- A block that can be read. -/
structure Readable (block : String × Declarations) : Prop where
  selector : isSelector (block.1 ++ " ") = true
  names : ∀ declaration ∈ block.2, isName declaration.1 = true
  values : ∀ declaration ∈ block.2, IsValue declaration.2

/-- Some text outside all blocks reads as blocks. -/
def Reads (css : String) (blocks : List Block) : Prop :=
  ∀ read, State.run ⟨.outside, read⟩ css.toList = some ⟨.outside, read ++ blocks⟩

namespace Reads

theorem nil : Reads "" [] := by
  intro read
  simp

theorem append {first second : String} {blocks others : List Block}
    (readsFirst : Reads first blocks) (readsSecond : Reads second others) :
    Reads (first ++ second) (blocks ++ others) := by
  intro read
  rw [String.toList_append, State.run_append, readsFirst, Option.bind_some, readsSecond,
    List.append_assoc]

theorem lineFeed : Reads "\n" [] := by
  intro read
  simp [State.step, Mode.step, isBlank]

theorem emptyLine : Reads "\n\n" [] :=
  lineFeed.append lineFeed

/-- Without stars a comment goes on. -/
theorem run_comment {read : List Block} {text : List Char} (noStar : '*' ∉ text) :
    State.run ⟨.comment, read⟩ text = some ⟨.comment, read⟩ := by
  induction text with
  | nil => rfl
  | cons c text ih =>
      rw [List.mem_cons, not_or] at noStar
      obtain ⟨different, others⟩ := noStar
      have stepped : State.step ⟨.comment, read⟩ c = some ⟨.comment, read⟩ := by
        simp [State.step, Mode.step, Ne.symm different]
      rw [State.run_cons, stepped, Option.bind_some, ih others]

/-- The comment at the top of a style sheet is no block. -/
theorem leadIn : Reads Stylesheet.leadIn [] := by
  intro read
  obtain ⟨text, spelled, noStar⟩ : ∃ text : List Char,
      Stylesheet.leadIn.toList = ['/', '*'] ++ text ++ ['*', '/'] ∧ '*' ∉ text :=
    ⟨(Stylesheet.leadIn.toList.drop 2).dropLast.dropLast, by decide +kernel, by decide +kernel⟩
  rw [spelled, State.run_append, State.run_append]
  simp [State.step, Mode.step, isBlank, run_comment noStar]

/-- A block reads as its selector and what is read between its braces. -/
theorem block {selector : String} (valid : isSelector (selector ++ " ") = true)
    {written declarations : Declarations} (reads : ReadsDeclarations written.body declarations) :
    Reads (written.block selector) [⟨selector ++ " ", declarations⟩] := by
  intro read
  have spelled : (written.block selector).toList =
      ((selector ++ " ").toList ++ ['\x7b']) ++ ("\n" ++ written.body ++ "\n").toList ++
        ['\x7d'] := by
    simp [Declarations.block]
  have body := ReadsDeclarations.append (.append .lineFeed reads) .lineFeed
  rw [spelled, State.run_append, State.run_append, run_selector valid, Option.bind_some, body,
    Option.bind_some]
  simp [State.step, Mode.step, isBlank]

theorem readable {block : String × Declarations} (readable : Readable block) :
    Reads (block.2.block block.1) [asRead block] :=
  .block readable.selector (.body readable.names readable.values)

/-- The text of blocks reads as what is read of each. -/
theorem text {blocks : List ((String × Declarations) × Block)}
    (reads : ∀ block ∈ blocks, Reads (block.1.2.block block.1.1) [block.2]) :
    Reads (Stylesheet.text (blocks.map Prod.fst)) (blocks.map Prod.snd) := by
  have blocksRead : Reads ("\n\n".intercalate
      (blocks.map fun block => block.1.2.block block.1.1))
        (blocks.flatMap fun block => [block.2]) :=
    intercalate_induction nil append emptyLine reads
  rw [← List.map_eq_flatMap] at blocksRead
  simpa [Stylesheet.text, Function.comp_def] using
    ((leadIn.append emptyLine).append blocksRead).append lineFeed

/-- The text of readable blocks reads as the blocks. -/
theorem text_readable {blocks : List (String × Declarations)}
    (allReadable : ∀ block ∈ blocks, Readable block) :
    Reads (Stylesheet.text blocks) (blocks.map asRead) := by
  have reads : Reads
      (Stylesheet.text ((blocks.map fun block => (block, asRead block)).map Prod.fst))
      ((blocks.map fun block => (block, asRead block)).map Prod.snd) := by
    apply text
    intro pair member
    obtain ⟨block, listed, rfl⟩ := List.mem_map.mp member
    exact readable (allReadable block listed)
  simpa [Function.comp_def] using reads

/-- What reads as blocks in every style sheet is read alone as these blocks. -/
theorem read_eq {css : String} {blocks : List Block} (reads : Reads css blocks) :
    read css = some blocks := by
  have reached := reads []
  rw [List.nil_append] at reached
  simp [Css.read, reached]

end Reads

end Typeset.Css
