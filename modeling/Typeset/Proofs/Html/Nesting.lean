import Typeset.Proofs.Html.Token

/-!
# Nesting of tags

A closing tag closes the element that was opened last.  Tokens are balanced when
they close everything that they open and nothing else; balanced tokens may stand
anywhere.
-/

namespace Typeset.Html

/-- The names of the elements that are open after a token, the last one first. -/
def openAfter (opened : List String) : Token → Option (List String)
  | .opening name _ => some (name :: opened)
  | .closing name =>
      match opened with
      | last :: others => if last = name then some others else none
      | [] => none
  | _ => some opened

/-- The names of the elements that are open after some tokens. -/
def openAfterAll (opened : List String) (tokens : List Token) : Option (List String) :=
  tokens.foldlM openAfter opened

/-- Tokens close in reverse order what they open, and nothing else. -/
def Balanced (tokens : List Token) : Prop :=
  ∀ opened, openAfterAll opened tokens = some opened

@[simp]
theorem openAfterAll_cons (opened : List String) (token : Token) (tokens : List Token) :
    openAfterAll opened (token :: tokens) =
      (openAfter opened token).bind fun next => openAfterAll next tokens :=
  rfl

theorem openAfterAll_append (opened : List String) (first second : List Token) :
    openAfterAll opened (first ++ second) =
      (openAfterAll opened first).bind fun next => openAfterAll next second :=
  List.foldlM_append

namespace Balanced

theorem nil : Balanced [] :=
  fun _ => rfl

theorem text (content : String) : Balanced [.text content] :=
  fun _ => rfl

theorem single (name : String) (attributes : List Attribute) :
    Balanced [.single name attributes] :=
  fun _ => rfl

theorem append {first second : List Token} (balancedFirst : Balanced first)
    (balancedSecond : Balanced second) : Balanced (first ++ second) := by
  intro opened
  rw [openAfterAll_append, balancedFirst, Option.bind_some, balancedSecond]

theorem element (name : String) (attributes : List Attribute) {tokens : List Token}
    (balanced : Balanced tokens) :
    Balanced (.opening name attributes :: tokens ++ [.closing name]) := by
  intro opened
  rw [List.cons_append, openAfterAll_cons, openAfter, Option.bind_some, openAfterAll_append,
    balanced, Option.bind_some]
  simp [openAfterAll, openAfter]

end Balanced

/-- Texts open and close nothing. -/
theorem openAfterAll_filter_isTag (opened : List String) (tokens : List Token) :
    openAfterAll opened (tokens.filter Token.isTag) = openAfterAll opened tokens := by
  induction tokens generalizing opened with
  | nil => rfl
  | cons token tokens ih =>
      cases token with
      | text content => exact ih opened
      | opening name attributes => exact ih (name :: opened)
      | single name attributes => exact ih opened
      | closing name =>
          have kept : (Token.closing name :: tokens).filter Token.isTag =
              .closing name :: tokens.filter Token.isTag := rfl
          rw [kept, openAfterAll_cons, openAfterAll_cons]
          cases openAfter opened (.closing name) with
          | none => rfl
          | some next => exact ih next

/-- Joining texts keeps tokens balanced. -/
theorem Balanced.join {tokens : List Token} (balanced : Balanced tokens) :
    Balanced (join tokens) := by
  intro opened
  rw [← openAfterAll_filter_isTag, filter_isTag_join, openAfterAll_filter_isTag, balanced]

end Typeset.Html
