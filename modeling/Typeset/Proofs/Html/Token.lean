/-!
# Pieces of HTML

A reader of HTML sees texts and tags.  A text reaches from one tag to the next,
so tokens are compared after joining the texts that stand side by side.
-/

namespace Typeset.Html

/-- A name and a decoded value. -/
abbrev Attribute := String × String

/-- A piece of HTML, with all references decoded. -/
inductive Token where
  | text (content : String)
  | opening (name : String) (attributes : List Attribute)
  | single (name : String) (attributes : List Attribute)
  | closing (name : String)
  deriving DecidableEq

namespace Token

/-- Whether a token is a tag; the others are text. -/
def isTag : Token → Bool
  | text _ => false
  | _ => true

/-- The name of a tag. -/
def name? : Token → Option String
  | text _ => none
  | opening name _ => some name
  | single name _ => some name
  | closing name => some name

theorem exists_name?_of_isTag {token : Token} (isTag : token.isTag = true) :
    ∃ name, token.name? = some name := by
  cases token with
  | text content => contradiction
  | opening name attributes => exact ⟨name, rfl⟩
  | single name attributes => exact ⟨name, rfl⟩
  | closing name => exact ⟨name, rfl⟩

/-- The attributes of a tag. -/
def attributes : Token → List Attribute
  | opening _ attributes => attributes
  | single _ attributes => attributes
  | _ => []

end Token

/-! ## Joining texts -/

/-- Tokens that are being gathered: those up to the last tag, in reverse order,
and the text after it. -/
structure Gathered where
  done : List Token
  text : String

namespace Gathered

/-- Nothing is gathered. -/
def empty : Gathered :=
  ⟨[], ""⟩

/-- The gathered tokens in reverse order; the empty text is none. -/
def reversed (gathered : Gathered) : List Token :=
  if gathered.text = "" then gathered.done else .text gathered.text :: gathered.done

/-- Add a token. -/
def push (gathered : Gathered) : Token → Gathered
  | .text content => { gathered with text := gathered.text ++ content }
  | tag => ⟨tag :: gathered.reversed, ""⟩

/-- Add tokens one after the other. -/
def pushAll (gathered : Gathered) (tokens : List Token) : Gathered :=
  tokens.foldl push gathered

@[simp]
theorem pushAll_nil (gathered : Gathered) : gathered.pushAll [] = gathered :=
  rfl

@[simp]
theorem pushAll_cons (gathered : Gathered) (token : Token) (tokens : List Token) :
    gathered.pushAll (token :: tokens) = (gathered.push token).pushAll tokens :=
  rfl

@[simp]
theorem pushAll_append (gathered : Gathered) (first second : List Token) :
    gathered.pushAll (first ++ second) = (gathered.pushAll first).pushAll second :=
  List.foldl_append

theorem push_of_isTag {token : Token} (tag : token.isTag = true) (gathered : Gathered) :
    gathered.push token = ⟨token :: gathered.reversed, ""⟩ := by
  cases token with
  | text content => simp [Token.isTag] at tag
  | opening name attributes => rfl
  | single name attributes => rfl
  | closing name => rfl

@[simp]
theorem push_empty_text (gathered : Gathered) : gathered.push (.text "") = gathered := by
  simp [push]

/-- Texts side by side are one text. -/
theorem push_text_push_text (gathered : Gathered) (first second : String) :
    (gathered.push (.text first)).push (.text second) =
      gathered.push (.text (first ++ second)) := by
  simp [push, String.append_assoc]

/-- The gathered text holds no tag. -/
theorem filter_isTag_reversed (gathered : Gathered) :
    gathered.reversed.filter Token.isTag = gathered.done.filter Token.isTag := by
  unfold reversed
  split
  · rfl
  · rfl

/-- Joining texts keeps the tags and their order. -/
theorem filter_isTag_push (gathered : Gathered) (token : Token) :
    (gathered.push token).reversed.filter Token.isTag =
      [token].filter Token.isTag ++ gathered.reversed.filter Token.isTag := by
  cases token with
  | text content =>
      rw [filter_isTag_reversed, filter_isTag_reversed]
      rfl
  | opening name attributes => rfl
  | single name attributes => rfl
  | closing name => rfl

theorem filter_isTag_pushAll (gathered : Gathered) (tokens : List Token) :
    (gathered.pushAll tokens).reversed.filter Token.isTag =
      (tokens.filter Token.isTag).reverse ++ gathered.reversed.filter Token.isTag := by
  induction tokens generalizing gathered with
  | nil => rfl
  | cons token tokens ih =>
      rw [pushAll_cons, ih, filter_isTag_push, ← List.append_assoc]
      by_cases tag : token.isTag = true <;> simp [tag]

/-- Gathering more tokens keeps every tag. -/
theorem mem_reversed_pushAll {tag : Token} (isTag : tag.isTag = true) {gathered : Gathered}
    (member : tag ∈ gathered.reversed) (tokens : List Token) :
    tag ∈ (gathered.pushAll tokens).reversed := by
  have kept : tag ∈ (gathered.pushAll tokens).reversed.filter Token.isTag := by
    rw [filter_isTag_pushAll]
    exact List.mem_append_right _ (List.mem_filter.mpr ⟨member, isTag⟩)
  exact (List.mem_filter.mp kept).1

/-- What was gathered before a text stays in front of what is gathered after it. -/
theorem reversed_pushAll_append (done earlier : List Token) (text : String)
    (tokens : List Token) :
    (pushAll ⟨done ++ earlier, text⟩ tokens).reversed =
      (pushAll ⟨done, text⟩ tokens).reversed ++ earlier := by
  have reversed_append : ∀ (done : List Token) (text : String),
      reversed ⟨done ++ earlier, text⟩ = reversed ⟨done, text⟩ ++ earlier := by
    intro done text
    unfold reversed
    split
    · rfl
    · rfl
  induction tokens generalizing done text with
  | nil => exact reversed_append done text
  | cons token tokens ih =>
      rw [pushAll_cons, pushAll_cons]
      by_cases tag : token.isTag = true
      · rw [push_of_isTag tag, push_of_isTag tag, reversed_append, ← List.cons_append, ih]
      · cases token with
        | text content => exact ih done (text ++ content)
        | _ => exact absurd rfl tag

end Gathered

/-- The tokens that a reader sees: texts side by side are one text, and no text
is empty. -/
def join (tokens : List Token) : List Token :=
  (Gathered.empty.pushAll tokens).reversed.reverse

/-- Joining texts changes no tag. -/
@[simp]
theorem filter_isTag_join (tokens : List Token) :
    (join tokens).filter Token.isTag = tokens.filter Token.isTag := by
  rw [join, List.filter_reverse, Gathered.filter_isTag_pushAll]
  simp [Gathered.reversed, Gathered.empty]

/-- A tag joins with nothing. -/
theorem join_cons_of_isTag {tag : Token} (isTag : tag.isTag = true) (tokens : List Token) :
    join (tag :: tokens) = tag :: join tokens := by
  have gathered := Gathered.reversed_pushAll_append [] [tag] "" tokens
  have started : Gathered.empty.reversed = [] := rfl
  rw [List.nil_append] at gathered
  rw [join, Gathered.pushAll_cons, Gathered.push_of_isTag isTag, started, gathered,
    List.reverse_append]
  rfl

/-- The tags of joined tokens are those of the tokens. -/
theorem mem_join_iff {tag : Token} (isTag : tag.isTag = true) (tokens : List Token) :
    tag ∈ join tokens ↔ tag ∈ tokens := by
  constructor
  · intro member
    have kept := List.mem_filter.mpr ⟨member, isTag⟩
    rw [filter_isTag_join] at kept
    exact (List.mem_filter.mp kept).1
  · intro member
    have kept := List.mem_filter.mpr ⟨member, isTag⟩
    rw [← filter_isTag_join] at kept
    exact (List.mem_filter.mp kept).1

end Typeset.Html
