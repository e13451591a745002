import UiTags.Value
import UiTags.Text.Basic

/-!
# Script string literals

Text placed inside a single-quoted script string is escaped character by character: the
backslash, both quotes, line feed, carriage return, tab, `<`, `>`, `&` and the line and paragraph
separators get escapes, every other character stands for itself. Escaping is a map over the
characters, so it is injective and distributes over concatenation.

A value written into a one-line script comment is flattened to its blank-separated words and
every `</` in it is broken as `<\/`.
-/

namespace UiTags
namespace Script

/-- The escape of one character inside a single-quoted string. -/
def escapeChar (c : Char) : List Char :=
  if c == '\\' then ['\\', '\\']
  else if c == '\'' then ['\\', '\'']
  else if c == '"' then "\\x22".toList
  else if c == '\n' then ['\\', 'n']
  else if c == '\r' then ['\\', 'r']
  else if c == '\t' then ['\\', 't']
  else if c == '<' then "\\x3C".toList
  else if c == '>' then "\\x3E".toList
  else if c == '&' then "\\x26".toList
  else if c.toNat == 0x2028 then "\\u2028".toList
  else if c.toNat == 0x2029 then "\\u2029".toList
  else [c]

/-- Escape a text for a single-quoted string. -/
def escape (s : String) : String :=
  String.ofList (s.toList.flatMap escapeChar)

/-- Escape the text of a value; null escapes to the empty text. -/
def escapeValue : Value → String
  | .null => ""
  | v => escape v.text

/-- A single-quoted string literal holding the text of a value. -/
def quoted (v : Value) : String :=
  "'" ++ escapeValue v ++ "'"

/-- A single-quoted string literal holding a text. -/
def quotedText (s : String) : String :=
  "'" ++ escape s ++ "'"

/-- A value flattened for a one-line comment. -/
def comment (v : Value) : String :=
  let text := if v.truthy then v.text else ""
  Text.replaceText "</" "<\\/" (" ".intercalate (Text.words text))

/-- `true` or `false` by the truth of a value. -/
def boolLiteral (v : Value) : String :=
  if v.truthy then "true" else "false"

theorem escape_append (a b : String) : escape (a ++ b) = escape a ++ escape b := by
  simp [escape, String.toList_append, List.flatMap_append]

end Script
end UiTags
