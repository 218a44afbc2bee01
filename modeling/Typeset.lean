import Typeset.Main
import Typeset.Proofs.Html.Reader
import Typeset.Proofs.Html.Written
import Typeset.Proofs.Style.Plain
import Typeset.Proofs.Basic
import Typeset.Proofs.Tree.Nodes
import Typeset.Proofs.Tree.Tokens
import Typeset.Proofs.Tree.OfDocument
import Typeset.Proofs.Html.Nesting
import Typeset.Proofs.Tree.Vocabulary
import Typeset.Proofs.Article
import Typeset.Proofs.Number.Range
import Typeset.Proofs.Number.Numeral
import Typeset.Proofs.Number.Rounding
import Typeset.Proofs.Number.Overflow
import Typeset.Proofs.Number.Shortest
import Typeset.Proofs.Number.Reading
import Typeset.Proofs.Number.CssText
import Typeset.Proofs.Settings.Checked
import Typeset.Proofs.Style.Renderable
import Typeset.Proofs.Style.Agreement
import Typeset.Proofs.Tree.Renders
import Typeset.Proofs.Settings.Merge
import Typeset.Proofs.Settings.Value
import Typeset.Proofs.Settings.Outcome
import Typeset.Proofs.Settings.Run
import Typeset.Proofs.Settings.Spelling
import Typeset.Settings.Change
import Typeset.Proofs.Session
import Typeset.Proofs.Text.Joins
import Typeset.Proofs.Style.Colors
import Typeset.Proofs.Tree.Colors
import Typeset.Proofs.Css.Reader
import Typeset.Proofs.Css.Written
import Typeset.Proofs.Style.Values
import Typeset.Proofs.Text.Lines
import Typeset.Proofs.Style.Determines
import Typeset.Proofs.Tree.Unstyled
import Typeset.Proofs.Structure
import Typeset.Proofs.File.Folder
import Typeset.Proofs.Number.Value
import Typeset.Proofs.Cli.Layers
import Typeset.Proofs.Cli.Program
import Typeset.Proofs.Cli.Arguments
import Typeset.Proofs.Cli.Failure
import Typeset.Proofs.Status.Markup
import Typeset.Proofs.Cli.Outputs
import Typeset.Proofs.Cli.Crash
import Typeset.Proofs.Settings.Layering
import Typeset.Proofs.Settings.Load
import Typeset.Proofs.Json.Grammar
import Typeset.Proofs.Json.Scan
import Typeset.Proofs.Json.Reader
import Typeset.Proofs.Json.Lines
import Typeset.Proofs.Settings.Repeats
import Typeset.Proofs.Tree.Postorder
import Typeset.Proofs.Tree.Walk
import Typeset.Proofs.Tree.Lengths
import Typeset.Proofs.Tree.Label
import Typeset.Proofs.Style.Recovery
import Typeset.Proofs.Number.Nearest
import Typeset.Proofs.Number.Faithful
import Typeset.Proofs.Markdown.Fence
import Typeset.Proofs.Markdown.Lines
import Typeset.Proofs.Markdown.Blocks
import Typeset.Proofs.Markdown.Prose
import Typeset.Proofs.Markdown.Paragraph
import Typeset.Proofs.Markdown.Nesting
import Typeset.Proofs.Cli.Ranges
import Typeset.Proofs.Style.Splitting
import Typeset.Proofs.Cli.Notices
import Typeset.Proofs.Styled.Registrations
import Typeset.Proofs.Status.Verbatim
import Typeset.Proofs.Status.Console
import Typeset.Styled.Registration
