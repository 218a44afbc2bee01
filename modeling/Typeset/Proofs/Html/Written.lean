import Typeset.Styled.Html
import Typeset.Proofs.Html.Reader
import Typeset.Proofs.Text.Plain

/-!
# What is read of the written pieces

Escaped text reads as the text that was escaped, escaped and plain values as
themselves, and an element as its tags around what is read of its content.  The
statements compose, so what is read of a document follows from what is read of
its parts.
-/

namespace Typeset.Html

open Typeset.Text

/-! ## Escaped text -/

theorem run_escapeChar (gathered : Gathered) (c : Char) :
    State.run ⟨.text, gathered⟩ (escapeChar c) =
      some ⟨.text, gathered.push (.text (String.ofList [c]))⟩ := by
  unfold escapeChar
  split
  · rename_i special
    cases eq_of_beq special
    rfl
  · split
    · rename_i special
      cases eq_of_beq special
      rfl
    · split
      · rename_i special
        cases eq_of_beq special
        rfl
      · simp_all [State.step, Mode.step]

/-- Escaped text reads as one text. -/
theorem run_escape (gathered : Gathered) (text : List Char) :
    State.run ⟨.text, gathered⟩ (text.flatMap escapeChar) =
      some ⟨.text, gathered.push (.text (String.ofList text))⟩ := by
  induction text generalizing gathered with
  | nil => simp
  | cons c text ih =>
      rw [List.flatMap_cons, State.run_append, run_escapeChar, Option.bind_some, ih,
        Gathered.push_text_push_text, ← String.ofList_append]
      rfl

/-! ## Values of attributes -/

theorem run_escapeAttributeChar (gathered : Gathered) (tag : Tag) (name : String)
    (content : List Char) (c : Char) :
    State.run ⟨.value tag name content, gathered⟩ (escapeAttributeChar c) =
      some ⟨.value tag name (content ++ [c]), gathered⟩ := by
  unfold escapeAttributeChar escapeChar
  split
  · rename_i special
    cases eq_of_beq special
    rfl
  · split
    · rename_i special
      cases eq_of_beq special
      rfl
    · split
      · rename_i special
        cases eq_of_beq special
        rfl
      · split
        · rename_i special
          cases eq_of_beq special
          rfl
        · split
          · rename_i special
            cases eq_of_beq special
            rfl
          · simp_all [State.step, Mode.step]

/-- An escaped value reads as the value. -/
theorem run_escapeAttribute (gathered : Gathered) (tag : Tag) (name : String)
    (content value : List Char) :
    State.run ⟨.value tag name content, gathered⟩ (value.flatMap escapeAttributeChar) =
      some ⟨.value tag name (content ++ value), gathered⟩ := by
  induction value generalizing content with
  | nil => simp
  | cons c value ih =>
      rw [List.flatMap_cons, State.run_append, run_escapeAttributeChar, Option.bind_some, ih,
        List.append_assoc]
      rfl

/-- A plain value reads as itself. -/
theorem run_plain (gathered : Gathered) (tag : Tag) (name : String) (content : List Char)
    {value : List Char} (plain : value.all isPlainChar = true) :
    State.run ⟨.value tag name content, gathered⟩ value =
      some ⟨.value tag name (content ++ value), gathered⟩ := by
  induction value generalizing content with
  | nil => simp
  | cons c value ih =>
      rw [List.all_cons, Bool.and_eq_true] at plain
      have stepped : State.step ⟨.value tag name content, gathered⟩ c =
          some ⟨.value tag name (content ++ [c]), gathered⟩ := by
        have special := plain.1
        simp only [isPlainChar, Bool.not_eq_true', Bool.or_eq_false_iff] at special
        simp [State.step, Mode.step, special]
      rw [State.run_cons, stepped, Option.bind_some, ih _ plain.2, List.append_assoc]
      rfl

/-! ## Attributes -/

/-- The tag whose end or next attribute the reader expects. -/
def Mode.tag? : Mode → Option Tag
  | openingName name => some ⟨String.ofList name, []⟩
  | tagEnd tag => some tag
  | _ => none

/-- After the name of a tag and after an attribute the reader goes on alike. -/
theorem State.step_of_tag? {mode : Mode} {tag : Tag} (expects : mode.tag? = some tag) {c : Char}
    (noName : c.isAlphanum = false) (gathered : Gathered) :
    step ⟨mode, gathered⟩ c = step ⟨.tagEnd tag, gathered⟩ c := by
  cases mode with
  | openingName name =>
      cases expects
      simp [step, Mode.step, noName]
  | tagEnd other =>
      cases expects
      rfl
  | _ => contradiction

/-- Some HTML reads as attributes of a tag. -/
def ReadsAttributes (html : String) (attributes : List Attribute) : Prop :=
  ∀ mode tag gathered, mode.tag? = some tag →
    ∃ next, State.run ⟨mode, gathered⟩ html.toList = some ⟨next, gathered⟩ ∧
      next.tag? = some { tag with attributes := tag.attributes ++ attributes }

theorem ReadsAttributes.nil : ReadsAttributes "" [] := by
  intro mode tag gathered expects
  exact ⟨mode, rfl, by simpa using expects⟩

theorem ReadsAttributes.append {first second : String} {attributes others : List Attribute}
    (readsFirst : ReadsAttributes first attributes)
    (readsSecond : ReadsAttributes second others) :
    ReadsAttributes (first ++ second) (attributes ++ others) := by
  intro mode tag gathered expects
  obtain ⟨middle, firstRun, middleExpects⟩ := readsFirst mode tag gathered expects
  obtain ⟨next, secondRun, nextExpects⟩ := readsSecond middle _ gathered middleExpects
  refine ⟨next, ?_, ?_⟩
  · rw [String.toList_append, State.run_append, firstRun, Option.bind_some, secondRun]
  · rw [nextExpects, List.append_assoc]

/-- The name of an attribute is read up to the quote that opens its value. -/
theorem run_attributeName (gathered : Gathered) (tag : Tag) {name : String}
    (isName : isAttributeName name = true) :
    State.run ⟨.space tag, gathered⟩ (name.toList ++ ['=', '\x22']) =
      some ⟨.value tag name [], gathered⟩ := by
  have others : ∀ read rest : List Char, rest.all isAttributeChar = true →
      State.run ⟨.attributeName tag read, gathered⟩ (rest ++ ['=', '\x22']) =
        some ⟨.value tag (String.ofList (read ++ rest)) [], gathered⟩ := by
    intro read rest allNameChars
    induction rest generalizing read with
    | nil => simp [State.step, Mode.step]
    | cons c rest ih =>
        rw [List.all_cons, Bool.and_eq_true] at allNameChars
        have notEquals : c ≠ '=' := by
          rintro rfl
          exact absurd allNameChars.1 (by decide)
        have stepped : State.step ⟨.attributeName tag read, gathered⟩ c =
            some ⟨.attributeName tag (read ++ [c]), gathered⟩ := by
          simp [State.step, Mode.step, notEquals, allNameChars.1]
        rw [List.cons_append, State.run_cons, stepped, Option.bind_some,
          ih _ allNameChars.2, List.append_assoc]
        rfl
  simp only [isAttributeName, Bool.and_eq_true, Bool.not_eq_true', List.isEmpty_eq_false_iff]
    at isName
  obtain ⟨c, rest, spelled⟩ := List.exists_cons_of_ne_nil isName.1
  have allNameChars := isName.2
  rw [spelled, List.all_cons, Bool.and_eq_true] at allNameChars
  have notSlash : c ≠ '/' := by
    rintro rfl
    exact absurd allNameChars.1 (by decide)
  have stepped : State.step ⟨.space tag, gathered⟩ c =
      some ⟨.attributeName tag [c], gathered⟩ := by
    simp [State.step, Mode.step, notSlash, allNameChars.1]
  rw [spelled, List.cons_append, State.run_cons, stepped, Option.bind_some,
    others _ _ allNameChars.2, List.singleton_append, ← spelled, String.ofList_toList]

/-- An attribute reads as itself when its written value reads as its value. -/
theorem readsAttributes_of_run {name : String} (written : String) (value : List Char)
    (isName : isAttributeName name = true)
    (readsValue : ∀ gathered tag,
      State.run ⟨.value tag name [], gathered⟩ written.toList =
        some ⟨.value tag name value, gathered⟩) :
    ReadsAttributes (" " ++ name ++ "=\"" ++ written ++ "\"") [(name, String.ofList value)] := by
  intro mode tag gathered expects
  refine ⟨.tagEnd { tag with attributes := tag.attributes ++ [(name, String.ofList value)] },
    ?_, rfl⟩
  have spaced : State.step ⟨mode, gathered⟩ ' ' = some ⟨.space tag, gathered⟩ :=
    State.step_of_tag? expects (by decide) gathered
  have spelled : (" " ++ name ++ "=\"" ++ written ++ "\"").toList =
      ' ' :: ((name.toList ++ ['=', '\x22']) ++ (written.toList ++ ['\x22'])) := by
    simp
  rw [spelled, State.run_cons, spaced, Option.bind_some, State.run_append,
    run_attributeName gathered tag isName, Option.bind_some, State.run_append, readsValue]
  rfl

theorem ReadsAttributes.escaped {name : String} (isName : isAttributeName name = true)
    (value : String) :
    ReadsAttributes (Styled.attributeText name value) [(name, value)] := by
  have reads := readsAttributes_of_run (escapeAttribute value) value.toList isName
    (by simp [run_escapeAttribute])
  rwa [String.ofList_toList] at reads

theorem ReadsAttributes.plain {name value : String} (isName : isAttributeName name = true)
    (plain : isPlain value = true) :
    ReadsAttributes (" " ++ name ++ "=\"" ++ value ++ "\"") [(name, value)] := by
  have reads := readsAttributes_of_run value value.toList isName
    (fun gathered tag => run_plain gathered tag name [] plain)
  rwa [String.ofList_toList] at reads

/-! ## Elements -/

/-- The name of a tag has a first letter. -/
theorem exists_cons_of_isTagName {name : String} (isName : isTagName name = true) :
    ∃ c rest, name.toList = c :: rest ∧ c.isAlpha = true ∧ rest.all Char.isAlphanum = true := by
  unfold isTagName at isName
  cases spelled : name.toList with
  | nil => simp [spelled] at isName
  | cons c rest =>
      simp only [spelled, List.head?_cons, Option.any_some, List.all_cons, Bool.and_eq_true]
        at isName
      exact ⟨c, rest, rfl, isName.1, isName.2.2⟩

/-- Some HTML reads as tokens, in whatever text it stands. -/
def Reads (html : String) (tokens : List Token) : Prop :=
  ∀ gathered, State.run ⟨.text, gathered⟩ html.toList = some ⟨.text, gathered.pushAll tokens⟩

namespace Reads

theorem nil : Reads "" [] := by
  intro gathered
  rfl

theorem append {first second : String} {tokens others : List Token}
    (readsFirst : Reads first tokens) (readsSecond : Reads second others) :
    Reads (first ++ second) (tokens ++ others) := by
  intro gathered
  rw [String.toList_append, State.run_append, readsFirst, Option.bind_some, readsSecond,
    Gathered.pushAll_append]

theorem escaped (text : String) : Reads (escape text) [.text text] := by
  intro gathered
  rw [toList_escape, run_escape, String.ofList_toList]
  rfl

theorem lineFeed : Reads "\n" [.text "\n"] := by
  intro gathered
  rfl

/-- The name of an opening tag is read to its end. -/
theorem run_openingName (gathered : Gathered) {name : String} (isName : isTagName name = true) :
    State.run ⟨.text, gathered⟩ ('<' :: name.toList) =
      some ⟨.openingName name.toList, gathered⟩ := by
  have others : ∀ read rest : List Char, rest.all Char.isAlphanum = true →
      State.run ⟨.openingName read, gathered⟩ rest =
        some ⟨.openingName (read ++ rest), gathered⟩ := by
    intro read rest allNameChars
    induction rest generalizing read with
    | nil => simp
    | cons c rest ih =>
        rw [List.all_cons, Bool.and_eq_true] at allNameChars
        have stepped : State.step ⟨.openingName read, gathered⟩ c =
            some ⟨.openingName (read ++ [c]), gathered⟩ := by
          simp [State.step, Mode.step, allNameChars.1]
        rw [State.run_cons, stepped, Option.bind_some, ih _ allNameChars.2, List.append_assoc]
        rfl
  obtain ⟨c, rest, spelled, letter, allNameChars⟩ := exists_cons_of_isTagName isName
  have notSlash : c ≠ '/' := by
    rintro rfl
    exact absurd letter (by decide)
  have stepped : State.step ⟨.tagStart, gathered⟩ c = some ⟨.openingName [c], gathered⟩ := by
    simp [State.step, Mode.step, notSlash, letter]
  have started : State.step ⟨.text, gathered⟩ '<' = some ⟨.tagStart, gathered⟩ := rfl
  rw [spelled, State.run_cons, started, Option.bind_some, State.run_cons, stepped,
    Option.bind_some, others _ _ allNameChars]
  rfl

/-- After the name of an opening tag its attributes are read. -/
theorem run_openingTag (gathered : Gathered) {name html : String} {attributes : List Attribute}
    (isName : isTagName name = true) (readsAttributes : ReadsAttributes html attributes) :
    ∃ mode, State.run ⟨.text, gathered⟩ (("<" ++ name ++ html).toList) = some ⟨mode, gathered⟩ ∧
      mode.tag? = some ⟨name, attributes⟩ := by
  have named : Mode.tag? (.openingName name.toList) = some ⟨name, []⟩ := by
    rw [Mode.tag?, String.ofList_toList]
  obtain ⟨mode, attributesRun, expects⟩ := readsAttributes _ _ gathered named
  refine ⟨mode, ?_, expects⟩
  have spelled : ("<" ++ name ++ html).toList = ('<' :: name.toList) ++ html.toList := by
    simp
  rw [spelled, State.run_append, run_openingName gathered isName, Option.bind_some,
    attributesRun]

theorem opening {name html : String} {attributes : List Attribute}
    (isName : isTagName name = true) (readsAttributes : ReadsAttributes html attributes) :
    Reads ("<" ++ name ++ html ++ ">") [.opening name attributes] := by
  intro gathered
  obtain ⟨mode, tagRun, expects⟩ := run_openingTag gathered isName readsAttributes
  have ended : State.step ⟨mode, gathered⟩ '>' =
      some ⟨.text, gathered.push (.opening name attributes)⟩ :=
    State.step_of_tag? expects (by decide) gathered
  have bracket : ">".toList = ['>'] := rfl
  rw [String.toList_append, State.run_append, tagRun, Option.bind_some, bracket, State.run_cons,
    ended]
  rfl

theorem single {name html : String} {attributes : List Attribute}
    (isName : isTagName name = true) (readsAttributes : ReadsAttributes html attributes) :
    Reads ("<" ++ name ++ html ++ " />") [.single name attributes] := by
  intro gathered
  obtain ⟨mode, tagRun, expects⟩ := run_openingTag gathered isName readsAttributes
  have spaced : State.step ⟨mode, gathered⟩ ' ' = some ⟨.space ⟨name, attributes⟩, gathered⟩ :=
    State.step_of_tag? expects (by decide) gathered
  have slash : " />".toList = [' ', '/', '>'] := rfl
  rw [String.toList_append, State.run_append, tagRun, Option.bind_some, slash, State.run_cons,
    spaced]
  rfl

theorem closing {name : String} (isName : isTagName name = true) :
    Reads ("</" ++ name ++ ">") [.closing name] := by
  intro gathered
  have others : ∀ read rest : List Char, read ≠ [] → rest.all Char.isAlphanum = true →
      State.run ⟨.closingName read, gathered⟩ (rest ++ ['>']) =
        some ⟨.text, gathered.push (.closing (String.ofList (read ++ rest)))⟩ := by
    intro read rest nonempty allNameChars
    induction rest generalizing read with
    | nil => simp [State.step, Mode.step, nonempty]
    | cons c rest ih =>
        rw [List.all_cons, Bool.and_eq_true] at allNameChars
        have notEnd : c ≠ '>' := by
          rintro rfl
          exact absurd allNameChars.1 (by decide)
        have stepped : State.step ⟨.closingName read, gathered⟩ c =
            some ⟨.closingName (read ++ [c]), gathered⟩ := by
          simp [State.step, Mode.step, notEnd, nonempty, allNameChars.1]
        rw [List.cons_append, State.run_cons, stepped, Option.bind_some,
          ih _ (by simp) allNameChars.2, List.append_assoc]
        rfl
  obtain ⟨c, rest, spelled, letter, allNameChars⟩ := exists_cons_of_isTagName isName
  have stepped : State.step ⟨.closingName [], gathered⟩ c =
      some ⟨.closingName [c], gathered⟩ := by
    simp [State.step, Mode.step, letter]
  have started : State.run ⟨.text, gathered⟩ ['<', '/'] = some ⟨.closingName [], gathered⟩ := rfl
  have written : ("</" ++ name ++ ">").toList = ['<', '/'] ++ (c :: (rest ++ ['>'])) := by
    simp [spelled]
  rw [written, State.run_append, started, Option.bind_some, State.run_cons, stepped,
    Option.bind_some, others _ _ (by simp) allNameChars, List.singleton_append, ← spelled,
    String.ofList_toList]
  rfl

/-- An element reads as its tags around what is read of its content. -/
theorem element {name html content : String} {attributes : List Attribute} {tokens : List Token}
    (isName : isTagName name = true) (readsAttributes : ReadsAttributes html attributes)
    (readsContent : Reads content tokens) :
    Reads (Styled.element name html content)
      (.opening name attributes :: tokens ++ [.closing name]) := by
  have parts : Styled.element name html content =
      ("<" ++ name ++ html ++ ">") ++ content ++ ("</" ++ name ++ ">") := by
    simp [Styled.element, String.append_assoc]
  rw [parts]
  exact ((opening isName readsAttributes).append readsContent).append (closing isName)

end Reads

/-- What reads as tokens in every text is read alone as these tokens, with texts
joined. -/
theorem Reads.read_eq {html : String} {tokens : List Token} (reads : Reads html tokens) :
    read html = some (join tokens) := by
  apply read_eq_some_iff.mpr
  exact ⟨_, reads .empty, rfl⟩

end Typeset.Html
