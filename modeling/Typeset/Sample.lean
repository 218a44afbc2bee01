/-!
# The sample article

A short article with headings, lists, code, a quotation, a rule and bold text.
-/

namespace Typeset

/-- The lines of the sample article. -/
def sampleLines : List String := [
  "# WeChat Article Typesetter",
  "",
  "A **code-driven** typesetting tool that runs entirely offline.",
  "",
  "## Features",
  "",
  "1. **Live preview**: edit on the left, see the result on the right.",
  "2. **Color presets**: built-in palettes, switched with one click.",
  "3. **Paste-ready**: the generated HTML pastes straight into the editor.",
  "",
  "## Code style",
  "",
  "```javascript",
  "const output = \"Hello Wechat\";",
  "console.log(output);",
  "```",
  "",
  "> Typesetting used to be **tedious**, but with the right tool it becomes **simple**.",
  "",
  "### Ordered list",
  "1. First point",
  "2. Second point",
  "",
  "### Unordered list",
  "- Apples",
  "- Bananas",
  "",
  "---",
  "",
  "May your article reach **100k+** reads!"]

/-- The sample article. -/
def sampleArticle : String :=
  String.join (sampleLines.map (· ++ "\n"))

end Typeset
