import Typeset.Markdown.Reader
import Typeset.Tree.OfDocument
import Typeset.Tree.Render

/-!
# Articles

An article is a Markdown text, rendered to HTML with its styles inline, inside
one section that sets the fonts.  The text arrives as a value that may not be a
text at all.
-/

namespace Typeset.Article

/-- Why an article could not be rendered. -/
inductive Error where
  /-- The value for the text is of another kind. -/
  | notText (value : Value)
  | rendering (error : RenderError)

/-- The wording of an error. -/
def Error.message : Error → String
  | notText value =>
      "Failed to parse markdown: Input data should be a string, not <class '" ++
        value.kindName ++ "'>"
  | rendering error => error.message

/-- The tree of a Markdown text. -/
def tree (markdown : String) : Node :=
  Node.ofDocument (Markdown.Document.read markdown)

/-- The HTML of a text, without the section around it. -/
def body (table : RuleTable) (markdown : String) (settings : Settings) :
    Except RenderError String :=
  (tree markdown).render table settings

/-- The opening tag of the section around an article. -/
def opening : String :=
  "<section id=\"wechat-typeset\" style=\"" ++
    "font-family:-apple-system,BlinkMacSystemFont,'Helvetica Neue',Arial,sans-serif; " ++
    "font-size:16px;\">"

/-- Put the section around a body. -/
def wrap (body : String) : String :=
  opening ++ "\n" ++ body ++ "\n</section>"

/-- The text of a value. -/
def textOf : Value → Except Error String
  | .text text => .ok text
  | value => .error (.notText value)

/-- The HTML of a value, without the section around it. -/
def fragment (table : RuleTable) (markdown : Value) (settings : Settings) :
    Except Error String := do
  let text ← textOf markdown
  (body table text settings).mapError .rendering

/-- The HTML of a value. -/
def html (table : RuleTable) (markdown : Value) (settings : Settings) :
    Except Error String :=
  (fragment table markdown settings).map wrap

end Typeset.Article
