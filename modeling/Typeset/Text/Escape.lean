/-!
# Escaping for HTML

Text between tags has its ampersands and angle brackets escaped.  Attribute
values are written between double quotes and have both kinds of quotes escaped
as well.
-/

namespace Typeset.Text

/-- A character of a text between tags. -/
def escapeChar (c : Char) : List Char :=
  if c == '&' then ['&', 'a', 'm', 'p', ';']
  else if c == '<' then ['&', 'l', 't', ';']
  else if c == '>' then ['&', 'g', 't', ';']
  else [c]

/-- A character of an attribute value. -/
def escapeAttributeChar (c : Char) : List Char :=
  if c == '\x22' then ['&', 'q', 'u', 'o', 't', ';']
  else if c == '\x27' then ['&', '#', 'x', '2', '7', ';']
  else escapeChar c

/-- Escape a text between tags. -/
def escape (text : String) : String :=
  String.ofList (text.toList.flatMap escapeChar)

/-- Escape an attribute value. -/
def escapeAttribute (text : String) : String :=
  String.ofList (text.toList.flatMap escapeAttributeChar)

@[simp]
theorem toList_escape (text : String) :
    (escape text).toList = text.toList.flatMap escapeChar := by
  simp [escape]

@[simp]
theorem toList_escapeAttribute (text : String) :
    (escapeAttribute text).toList = text.toList.flatMap escapeAttributeChar := by
  simp [escapeAttribute]

end Typeset.Text
