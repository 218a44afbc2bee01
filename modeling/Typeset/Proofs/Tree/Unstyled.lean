import Typeset.Proofs.Tree.Tokens

/-!
# Tokens without their styles

The settings change the values of `style` attributes.  What else a reader sees of a
tree is the same for all settings: its texts, its tags and the names and other values
of their attributes.
-/

namespace Typeset

namespace Html

/-- An attribute without its value if it is a style. -/
def unstyle (entry : Attribute) : Attribute :=
  if entry.1 = "style" then ("style", "") else entry

namespace Token

/-- A token without the values of its styles. -/
def unstyled : Token → Token
  | text content => text content
  | opening name attributes => opening name (attributes.map unstyle)
  | single name attributes => single name (attributes.map unstyle)
  | closing name => closing name

/-- The name of a tag and those of its attributes. -/
def names (token : Token) : Option String × List String :=
  (token.name?, token.attributes.map Prod.fst)

@[simp]
theorem names_unstyled (token : Token) : token.unstyled.names = token.names := by
  have kept : ∀ attributes : List Attribute,
      (attributes.map unstyle).map Prod.fst = attributes.map Prod.fst := by
    intro attributes
    rw [List.map_map]
    apply List.map_congr_left
    intro entry _
    simp only [Function.comp_apply, unstyle]
    split
    · rename_i isStyle
      exact isStyle.symm
    · rfl
  cases token with
  | text content => rfl
  | opening name attributes => exact congrArg (Prod.mk (some name)) (kept attributes)
  | single name attributes => exact congrArg (Prod.mk (some name)) (kept attributes)
  | closing name => rfl

end Token

namespace Gathered

/-- Gathered tokens without the values of their styles. -/
def unstyled (gathered : Gathered) : Gathered :=
  { gathered with done := gathered.done.map Token.unstyled }

theorem reversed_unstyled (gathered : Gathered) :
    gathered.unstyled.reversed = gathered.reversed.map Token.unstyled := by
  unfold reversed unstyled
  split
  · rfl
  · rfl

theorem push_unstyled (gathered : Gathered) (token : Token) :
    gathered.unstyled.push token.unstyled = (gathered.push token).unstyled := by
  by_cases isTag : token.isTag = true
  · have stillTag : token.unstyled.isTag = true := by
      cases token <;> simp_all [Token.isTag, Token.unstyled]
    rw [push_of_isTag isTag, push_of_isTag stillTag, reversed_unstyled]
    rfl
  · cases token with
    | text content => rfl
    | _ => exact absurd rfl isTag

theorem pushAll_unstyled (gathered : Gathered) (tokens : List Token) :
    gathered.unstyled.pushAll (tokens.map Token.unstyled) =
      (gathered.pushAll tokens).unstyled := by
  induction tokens generalizing gathered with
  | nil => rfl
  | cons token tokens ih => rw [List.map_cons, pushAll_cons, pushAll_cons, push_unstyled, ih]

end Gathered

/-- Joining texts changes no style. -/
theorem join_map_unstyled (tokens : List Token) :
    join (tokens.map Token.unstyled) = (join tokens).map Token.unstyled := by
  have gathered := Gathered.pushAll_unstyled .empty tokens
  have started : Gathered.empty.unstyled = .empty := rfl
  rw [started] at gathered
  rw [join, join, gathered, Gathered.reversed_unstyled, List.map_reverse]

end Html

namespace Node

open Typeset.Html

/-- Nothing but the values of styles differs. -/
def SameUnstyled (first second : List Token) : Prop :=
  first.map Token.unstyled = second.map Token.unstyled

namespace SameUnstyled

/-- In particular all names are the same. -/
theorem map_names {first second : List Token} (same : SameUnstyled first second) :
    first.map Token.names = second.map Token.names := by
  have names := congrArg (List.map Token.names) same
  simpa [Function.comp_def] using names

theorem append {first second others othersSecond : List Token} (same : SameUnstyled first second)
    (sameOthers : SameUnstyled others othersSecond) :
    SameUnstyled (first ++ others) (second ++ othersSecond) := by
  unfold SameUnstyled
  rw [List.map_append, List.map_append, same, sameOthers]

theorem join {first second : List Token} (same : SameUnstyled first second) :
    SameUnstyled (join first) (join second) := by
  unfold SameUnstyled
  rw [← join_map_unstyled, ← join_map_unstyled, same]

theorem single (name : String) {attributes others : List Attribute}
    (sameAttributes : attributes.map unstyle = others.map unstyle) :
    SameUnstyled [.single name attributes] [.single name others] := by
  simp [SameUnstyled, Token.unstyled, sameAttributes]

/-- An element around the same, with attributes that differ in styles. -/
theorem enclose {inner otherInner : List Token} (same : SameUnstyled inner otherInner)
    (name : String) {attributes others : List Attribute}
    (sameAttributes : attributes.map unstyle = others.map unstyle) :
    SameUnstyled (enclose name attributes inner) (enclose name others otherInner) := by
  unfold SameUnstyled at same ⊢
  simp only [Node.enclose, List.cons_append, List.map_cons, List.map_append, Token.unstyled,
    sameAttributes, same]

end SameUnstyled

variable {inner otherInner : List Token} (settings other : Settings)

/-- A node puts the same around its children for all settings. -/
theorem SameUnstyled.around (node : Node) (same : SameUnstyled inner otherInner) :
    SameUnstyled (tokensAround settings node inner) (tokensAround other node otherInner) := by
  rcases node with ⟨role, tag, attributes, text, info, hidden, block, children⟩
  have line : SameUnstyled lineEnd lineEnd := rfl
  have style : ∀ declarations others : Declarations,
      [styleOf declarations].map unstyle = [styleOf others].map unstyle := fun _ _ => rfl
  cases role with
  | root | inline => exact same
  | text | htmlBlock | htmlInline | softBreak | hardBreak | inlineCode | image => rfl
  | heading =>
      simp only [tokensAround, headingTokens]
      split
      · exact (same.enclose _ (style _ _)).append line
      · split
        · exact ((same.enclose _ (style _ _)).enclose _ (style _ _)).append line
        · exact (same.enclose _ (style _ _)).append line
  | paragraph =>
      cases hidden with
      | true => exact same
      | false => exact (same.enclose _ (style _ _)).append line
  | blockquote => exact (same.enclose _ (style _ _)).append line
  | fence | codeBlock =>
      have code : SameUnstyled (Node.enclose "code" [] [.text text])
          (Node.enclose "code" [] [.text text]) := rfl
      exact (code.enclose _ (style _ _)).append line
  | strong => exact same.enclose _ (style _ _)
  | bulletList => exact ((line.append same).enclose _ (style _ _)).append line
  | orderedList =>
      refine ((line.append same).enclose _ ?_).append line
      rw [List.map_append, List.map_append, style]
  | listItem => exact (same.enclose _ rfl).append line
  | link =>
      refine same.enclose _ ?_
      rw [List.map_append, List.map_append, style]
  | horizontalRule => exact (SameUnstyled.single "hr" (style _ _)).append line
  | other name =>
      simp only [tokensAround, plainTokens]
      split
      · exact same
      · split
        · exact same.enclose _ rfl
        · split
          · exact (same.enclose _ rfl).append line
          · exact ((line.append same).enclose _ rfl).append line

/-- The tokens of a tree are the same for all settings but for styles. -/
theorem sameUnstyled_tokens (tree : Node) :
    SameUnstyled (tree.tokens settings) (tree.tokens other) := by
  induction tree using Node.induction with
  | step tree ih =>
      have children : ∀ trees : List Node,
          (∀ tree ∈ trees, SameUnstyled (tree.tokens settings) (tree.tokens other)) →
            SameUnstyled (allTokens settings trees) (allTokens other trees) := by
        intro trees each
        induction trees with
        | nil => rfl
        | cons first others othersSame =>
            obtain ⟨firstSame, each⟩ := List.forall_mem_cons.mp each
            exact firstSame.append (othersSame each)
      rw [tokens_eq, tokens_eq]
      exact .around settings other tree (children tree.children ih)

end Node

end Typeset
