import Mathlib.Data.List.Basic
import Typeset.Proofs.Basic
import Typeset.Proofs.Css.Written
import Typeset.Proofs.Number.Reading
import Typeset.Proofs.Text.Lines
import Typeset.Text.Blank

/-!
# Declarations split apart

Both forms of declarations can be read without a parser.  A `style` attribute is cut at its
semicolons and a block at the ends of its lines, and what is left of a declaration is cut at its
first colon.  Main statement: as long as no name and no value holds a mark at which its form is
cut, both forms give back the same declarations.
-/

namespace Typeset

open Text

/-- The characters at which a reader cuts lines: line feeds, and perhaps other white space than
the blank. -/
structure LineEnds where
  ends : Char → Bool
  lineFeed : ends '\n' = true
  blank : ends ' ' = false
  spaces : ∀ c, ends c = true → separatesWords c = true

namespace LineEnds

/-- Lines are cut at line feeds only. -/
def strict : LineEnds where
  ends c := c == '\n'
  lineFeed := by decide
  blank := by decide
  spaces := by
    intro c ends
    cases eq_of_beq ends
    decide

/-- What moves on to another line or page, and the separators of files, groups and records. -/
def movesOn (c : Char) : Bool :=
  (0x0A ≤ c.toNat && c.toNat ≤ 0x0D) || (0x1C ≤ c.toNat && c.toNat ≤ 0x1E) ||
    c.toNat == 0x85 || c.toNat == 0x2028 || c.toNat == 0x2029

theorem separatesWords_of_movesOn (c : Char) (ends : movesOn c = true) :
    separatesWords c = true := by
  simp only [movesOn, Bool.or_eq_true, Bool.and_eq_true, decide_eq_true_iff, beq_iff_eq] at ends
  simp only [separatesWords, isPadding, isEdge, isSpacing, Bool.or_eq_true, Bool.and_eq_true,
    decide_eq_true_iff, beq_iff_eq]
  omega

/-- Lines are cut at all that moves on. -/
def universal : LineEnds where
  ends := movesOn
  lineFeed := by decide
  blank := by decide
  spaces := separatesWords_of_movesOn

/-- Only white space ends a line. -/
theorem ends_eq_false (lines : LineEnds) {c : Char} (noSpace : separatesWords c = false) :
    lines.ends c = false := by
  rw [← Bool.not_eq_true]
  intro ends
  have space := lines.spaces c ends
  rw [noSpace] at space
  contradiction

end LineEnds

namespace Declarations

/-! ## Readers -/

/-- The pieces of a text between the characters of a class, trimmed, without blank ones. -/
def pieces (ends : Char → Bool) (text : List Char) : List (List Char) :=
  ((text.splitOnP ends).map (trim separatesWords)).filter fun piece => !piece.isEmpty

/-- Cut a text at its first colon into a name and a value, and trim both. -/
def cut? (text : List Char) : Option Declaration :=
  let name := text.takeWhile (· != ':')
  match text.drop name.length with
  | [] => none
  | _ :: value =>
      some (String.ofList (trim separatesWords name), String.ofList (trim separatesWords value))

/-- The declarations of a `style` attribute. -/
def split? (style : String) : Option Declarations :=
  (pieces (· == ';') style.toList).mapM cut?

/-- How every line of a block ends. -/
def flag : String :=
  " !important;"

/-- The declaration of a line, without the flag at its end. -/
def cutLine? (line : List Char) : Option Declaration :=
  (line.dropSuffix? flag.toList).bind cut?

/-- What stands in a block between its last opening brace and the next closing one. -/
def inside (block : String) : List Char :=
  (block.toList.reverse.takeWhile (· != '\x7b')).reverse.takeWhile (· != '\x7d')

/-- The declarations of a block. -/
def splitBlock? (lines : LineEnds) (block : String) : Option Declarations :=
  (pieces lines.ends (inside block)).mapM cutLine?

/-! ## Pieces -/

section Pieces

variable {ends : Char → Bool} {c : Char} {text rest : List Char}

@[simp]
theorem pieces_nil : pieces ends [] = [] :=
  rfl

theorem pieces_append_cons (cut : ends c = true) :
    pieces ends (text ++ c :: rest) = pieces ends text ++ pieces ends rest := by
  simp [pieces, List.splitOnP_append_cons _ _ cut]

theorem trim_cons_of_space (space : separatesWords c = true) :
    trim separatesWords (c :: text) = trim separatesWords text := by
  rw [trim, List.dropWhile_cons_of_pos space, trim]

/-- White space before a piece is trimmed, and an empty piece before an end is left out. -/
theorem pieces_cons_of_space (space : separatesWords c = true) :
    pieces ends (c :: text) = pieces ends text := by
  unfold pieces
  rw [List.splitOnP_cons_eq_if_modifyHead]
  split
  · rfl
  · obtain ⟨piece, others, split⟩ := List.exists_cons_of_ne_nil (List.splitOnP_ne_nil ends text)
    rw [split, List.modifyHead_cons, List.map_cons, List.map_cons, trim_cons_of_space space]

/-- A text that holds no end and has no white space around it is one piece. -/
theorem pieces_eq_singleton (nonempty : text ≠ []) (noEnd : ∀ c ∈ text, ends c = false)
    (head : text.head?.any separatesWords = false)
    (last : text.getLast?.any separatesWords = false) : pieces ends text = [text] := by
  rw [pieces, List.splitOnP_eq_singleton noEnd, List.map_singleton,
    Number.trim_eq_self_of_ends head last]
  simpa using nonempty

theorem mapM_map_eq_some {α β : Type} {write : α → β} {read : β → Option α} {items : List α}
    (reads : ∀ item ∈ items, read (write item) = some item) :
    (items.map write).mapM read = some items := by
  induction items with
  | nil => rfl
  | cons item items ih =>
      obtain ⟨first, others⟩ := List.forall_mem_cons.mp reads
      rw [List.map_cons, List.mapM_cons, first, ih others]
      rfl

end Pieces

/-! ## Texts without marks -/

/-- A declaration without a mark at which one of the forms is cut. -/
structure Separable (lines : LineEnds) (declaration : Declaration) : Prop where
  name : ∀ c ∈ declaration.1.toList,
    c ∉ [':', ';', '\x7b', '\x7d'] ∧ separatesWords c = false
  value : ∀ c ∈ declaration.2.toList, c ∉ [';', '\x7b', '\x7d'] ∧ lines.ends c = false
  starts : declaration.2.toList.head?.any separatesWords = false
  stops : declaration.2.toList.getLast?.any separatesWords = false

variable {lines : LineEnds} {declaration : Declaration} {declarations : Declarations}
  {text : List Char}

instance : Decidable (Separable lines declaration) :=
  decidable_of_iff
    (declaration.1.toList.all
        (fun c => decide (c ∉ [':', ';', '\x7b', '\x7d'] ∧ separatesWords c = false)) = true ∧
      declaration.2.toList.all
        (fun c => decide (c ∉ [';', '\x7b', '\x7d'] ∧ lines.ends c = false)) = true ∧
      declaration.2.toList.head?.any separatesWords = false ∧
      declaration.2.toList.getLast?.any separatesWords = false) <| by
    simp only [List.all_eq_true, decide_eq_true_iff]
    constructor
    · rintro ⟨name, value, starts, stops⟩
      exact ⟨name, value, starts, stops⟩
    · rintro ⟨name, value, starts, stops⟩
      exact ⟨name, value, starts, stops⟩

/-- A name before a colon and a value, perhaps with a blank between the two. -/
theorem cut?_eq (separable : Separable lines declaration)
    (trims : trim separatesWords text = declaration.2.toList) :
    cut? (declaration.1.toList ++ ':' :: text) = some declaration := by
  have noColon : ∀ c ∈ declaration.1.toList, (c != ':') = true := by
    intro c member
    simpa using fun equal => (separable.name c member).1 (by simp [equal])
  have name : (declaration.1.toList ++ ':' :: text).takeWhile (· != ':') =
      declaration.1.toList := takeWhile_append_eq noColon (by simp)
  have trimsName := Number.trim_eq_self fun c member => (separable.name c member).2
  simp only [cut?, name, List.drop_left, trims, trimsName, String.ofList_toList]

/-- A name does not start with white space, and neither does the colon after no name. -/
theorem Separable.head_name (separable : Separable lines declaration) (text : List Char) :
    (declaration.1.toList ++ ':' :: text).head?.any separatesWords = false := by
  cases spelled : declaration.1.toList with
  | nil => rfl
  | cons c others => exact (separable.name c (by simp [spelled])).2

/-! ## The attribute -/

/-- A declaration of an attribute, before its semicolon. -/
def attributePiece (declaration : Declaration) : List Char :=
  declaration.1.toList ++ ':' :: declaration.2.toList

theorem pieces_attributePiece (separable : Separable lines declaration) :
    pieces (· == ';') (attributePiece declaration) = [attributePiece declaration] := by
  apply pieces_eq_singleton
  · simp [attributePiece]
  · intro c member
    rw [beq_eq_false_iff_ne]
    rintro rfl
    rcases List.mem_append.mp member with inName | inValue
    · exact (separable.name _ inName).1 (by decide)
    · rcases List.mem_cons.mp inValue with impossible | inValue
      · exact absurd impossible (by decide)
      · exact (separable.value _ inValue).1 (by decide)
  · exact separable.head_name _
  · rw [attributePiece, List.getLast?_append_cons, List.getLast?_cons]
    have stops := separable.stops
    cases last : declaration.2.toList.getLast? with
    | none => decide
    | some c => rwa [last] at stops

/-- A text in front of any other comes apart into some pieces. -/
def ComesApart (text : String) (items : List (List Char)) : Prop :=
  ∀ rest, pieces (· == ';') (text.toList ++ rest) = items ++ pieces (· == ';') rest

namespace ComesApart

theorem nil : ComesApart "" [] :=
  fun _ => rfl

theorem append {first second : String} {items others : List (List Char)}
    (apartFirst : ComesApart first items) (apartSecond : ComesApart second others) :
    ComesApart (first ++ second) (items ++ others) := by
  intro rest
  rw [String.toList_append, List.append_assoc, apartFirst, apartSecond, List.append_assoc]

theorem blank : ComesApart " " [] :=
  fun _ => pieces_cons_of_space (by decide)

theorem single (separable : Separable lines declaration) :
    ComesApart (declaration.1 ++ ":" ++ declaration.2 ++ ";") [attributePiece declaration] := by
  intro rest
  have spelled : (declaration.1 ++ ":" ++ declaration.2 ++ ";").toList ++ rest =
      attributePiece declaration ++ ';' :: rest := by
    simp [attributePiece]
  rw [spelled, pieces_append_cons (by decide), pieces_attributePiece separable]

theorem inline (separable : ∀ declaration ∈ declarations, Separable lines declaration) :
    ComesApart declarations.inline (declarations.map attributePiece) := by
  rw [List.map_eq_flatMap]
  apply Css.intercalate_induction nil append blank
  intro declaration listed
  exact .single (separable declaration listed)

end ComesApart

/-! ## The block -/

/-- A declaration of a block, as it stands on its line. -/
def linePiece (declaration : Declaration) : List Char :=
  declaration.1.toList ++ ':' :: (' ' :: declaration.2.toList ++ flag.toList)

/-- A line is its declaration behind two blanks. -/
theorem toList_line (declaration : Declaration) :
    (line declaration).toList = ' ' :: ' ' :: linePiece declaration := by
  have spelled : line declaration = "  " ++ declaration.1 ++ ": " ++ declaration.2 ++ flag := rfl
  simp [spelled, linePiece]

/-- The flag has blanks as its only white space, and no brace. -/
theorem of_mem_flag {c : Char} (member : c ∈ flag.toList) :
    (c = ' ' ∨ separatesWords c = false) ∧ c ∉ ['\x7b', '\x7d'] := by
  have all : flag.toList.all (fun c =>
      decide ((c = ' ' ∨ separatesWords c = false) ∧ c ∉ ['\x7b', '\x7d'])) = true := by decide
  exact of_decide_eq_true (List.all_eq_true.mp all c member)

theorem pieces_linePiece (separable : Separable lines declaration) :
    pieces lines.ends (linePiece declaration) = [linePiece declaration] := by
  have flagged : ∀ c ∈ flag.toList, lines.ends c = false := by
    intro c member
    rcases (of_mem_flag member).1 with rfl | noSpace
    · exact lines.blank
    · exact lines.ends_eq_false noSpace
  apply pieces_eq_singleton
  · simp [linePiece]
  · intro c member
    simp only [linePiece, List.mem_append, List.mem_cons] at member
    rcases member with inName | rfl | (rfl | inValue) | inFlag
    · exact lines.ends_eq_false (separable.name c inName).2
    · exact lines.ends_eq_false (by decide)
    · exact lines.blank
    · exact (separable.value c inValue).2
    · exact flagged c inFlag
  · exact separable.head_name _
  · have last : flag.toList.getLast? = some ';' := by decide
    rw [linePiece, List.getLast?_append_cons, List.getLast?_cons, List.getLast?_append, last]
    rfl

/-- Lines come apart into their declarations. -/
theorem pieces_unlines (separable : ∀ declaration ∈ declarations, Separable lines declaration) :
    pieces lines.ends (unlines (declarations.map line)).toList =
      declarations.map linePiece := by
  induction declarations with
  | nil => rfl
  | cons declaration declarations ih =>
      obtain ⟨first, others⟩ := List.forall_mem_cons.mp separable
      have spelled : (unlines ((declaration :: declarations).map line)).toList =
          ' ' :: ' ' :: (linePiece declaration ++
            '\n' :: (unlines (declarations.map line)).toList) := by
        rw [List.map_cons, unlines, String.toList_append, String.toList_append, toList_line]
        simp
      have blank : separatesWords ' ' = true := by decide
      rw [spelled, pieces_cons_of_space blank, pieces_cons_of_space blank,
        pieces_append_cons lines.lineFeed, pieces_linePiece first, ih others, List.map_cons]
      rfl

theorem noBrace_lineFeed : ∀ c ∈ "\n".toList, c ∉ ['\x7b', '\x7d'] := by
  intro c member
  cases List.mem_singleton.mp member
  decide

theorem noBrace_unlines (separable : ∀ declaration ∈ declarations, Separable lines declaration) :
    ∀ c ∈ (unlines (declarations.map line)).toList, c ∉ ['\x7b', '\x7d'] := by
  induction declarations with
  | nil => exact nofun
  | cons declaration declarations ih =>
      obtain ⟨first, others⟩ := List.forall_mem_cons.mp separable
      intro c member
      rw [List.map_cons, unlines, String.toList_append, String.toList_append, toList_line] at member
      simp only [linePiece, List.mem_append, List.mem_cons] at member
      rcases member with ((rfl | rfl | inName | rfl | (rfl | inValue) | inFlag) | inFeed) | inRest
      · decide
      · decide
      · exact fun brace =>
          (first.name c inName).1 (List.mem_cons_of_mem _ (List.mem_cons_of_mem _ brace))
      · decide
      · decide
      · exact fun brace => (first.value c inValue).1 (List.mem_cons_of_mem _ brace)
      · exact (of_mem_flag inFlag).2
      · exact noBrace_lineFeed c inFeed
      · exact ih others c inRest

/-- The body of a block and the line feed after it are lines, unless there is no declaration. -/
theorem body_append_lineFeed (declarations : Declarations) :
    declarations.body ++ "\n" =
      if declarations = [] then "\n" else unlines (declarations.map line) := by
  split
  · rename_i none
    rw [none]
    rfl
  · rename_i some
    exact intercalate_lineFeed (by simpa using some)

/-- A text without braces is found between the last brace that opens and the next one that
closes. -/
theorem inside_eq {before middle : List Char} {block : String}
    (spelled : block.toList = before ++ '\x7b' :: (middle ++ ['\x7d']))
    (noBrace : ∀ c ∈ middle, c ∉ ['\x7b', '\x7d']) : inside block = middle := by
  have notOpening : ∀ c ∈ (middle ++ ['\x7d']).reverse, (c != '\x7b') = true := by
    intro c member
    rcases List.mem_append.mp (List.mem_reverse.mp member) with inMiddle | closing
    · simpa using fun equal => noBrace c inMiddle (by simp [equal])
    · rw [List.mem_singleton.mp closing]
      decide
  have opened : ((middle ++ ['\x7d']).reverse ++ '\x7b' :: before.reverse).takeWhile
      (· != '\x7b') = (middle ++ ['\x7d']).reverse := takeWhile_append_eq notOpening (by simp)
  have notClosing : ∀ c ∈ middle, (c != '\x7d') = true := by
    intro c inMiddle
    simpa using fun equal => noBrace c inMiddle (by simp [equal])
  rw [inside, spelled, List.reverse_append, List.reverse_cons, List.append_assoc,
    List.singleton_append, opened, List.reverse_reverse]
  exact takeWhile_append_eq notClosing (by simp)

theorem inside_block (separable : ∀ declaration ∈ declarations, Separable lines declaration)
    (selector : String) :
    inside (declarations.block selector) = '\n' :: (declarations.body ++ "\n").toList := by
  have spelled : (declarations.block selector).toList = (selector.toList ++ [' ']) ++
      '\x7b' :: ('\n' :: (declarations.body ++ "\n").toList ++ ['\x7d']) := by
    simp [block]
  have noBrace : ∀ c ∈ (declarations.body ++ "\n").toList, c ∉ ['\x7b', '\x7d'] := by
    rw [body_append_lineFeed]
    split
    · exact noBrace_lineFeed
    · exact noBrace_unlines separable
  apply inside_eq spelled
  exact List.forall_mem_cons.mpr ⟨by decide, noBrace⟩

theorem pieces_body (separable : ∀ declaration ∈ declarations, Separable lines declaration) :
    pieces lines.ends (declarations.body ++ "\n").toList = declarations.map linePiece := by
  rw [body_append_lineFeed]
  split
  · rename_i none
    rw [none]
    exact pieces_cons_of_space (by decide)
  · exact pieces_unlines separable

/-! ## Both forms -/

theorem cut?_attributePiece (separable : Separable lines declaration) :
    cut? (attributePiece declaration) = some declaration :=
  cut?_eq separable (Number.trim_eq_self_of_ends separable.starts separable.stops)

theorem cutLine?_linePiece (separable : Separable lines declaration) :
    cutLine? (linePiece declaration) = some declaration := by
  have unflagged : (linePiece declaration).dropSuffix? flag.toList =
      some (declaration.1.toList ++ ':' :: ' ' :: declaration.2.toList) :=
    List.dropSuffix?_eq_some_iff.mpr ⟨flag.toList, by simp [linePiece], beq_self_eq_true _⟩
  rw [cutLine?, unflagged, Option.bind_some]
  apply cut?_eq separable
  rw [trim_cons_of_space (by decide),
    Number.trim_eq_self_of_ends separable.starts separable.stops]

/-- Declarations are read back from both of their forms: from an attribute that is cut at its
semicolons, and from the block of any selector that is cut at the ends of its lines. -/
theorem split_written {lines : LineEnds} {declarations : Declarations}
    (separable : ∀ declaration ∈ declarations, Separable lines declaration) :
    split? declarations.inline = some declarations ∧
      ∀ selector, splitBlock? lines (declarations.block selector) = some declarations := by
  constructor
  · have apart := ComesApart.inline separable []
    rw [List.append_nil, pieces_nil, List.append_nil] at apart
    rw [split?, apart]
    exact mapM_map_eq_some fun declaration member =>
      cut?_attributePiece (separable declaration member)
  · intro selector
    rw [splitBlock?, inside_block separable, pieces_cons_of_space (by decide),
      pieces_body separable]
    exact mapM_map_eq_some fun declaration member =>
      cutLine?_linePiece (separable declaration member)

/-- Declarations with colons, blanks, quotes, commas, a flag of their own and empty parts. -/
def adorned : Declarations :=
  [("font-family", "-apple-system, \"Segoe UI\", 'Andale Mono'"),
    ("background", "url(https://a.b/c: d) !important"), ("--gap", ""), ("", ":")]

theorem split_written_adorned :
    split? adorned.inline = some adorned ∧
      splitBlock? .universal (adorned.block ".view \x7b p") = some adorned ∧
      splitBlock? .strict (block "p" [("content", "first\x0csecond")]) =
        some [("content", "first\x0csecond")] := by
  have separable : ∀ declaration ∈ adorned, Separable .universal declaration := by decide
  have paged : ∀ declaration ∈ [("content", "first\x0csecond")],
      Separable .strict declaration := by decide
  exact ⟨(split_written separable).1, (split_written separable).2 _, (split_written paged).2 _⟩

end Declarations

end Typeset
