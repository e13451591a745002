import UiTags.Text.Class.Printable
import UiTags.Text.Basic
import UiTags.Text.Lone

/-!
# Quoted text

The quoted form of a text, as messages and the text of lists and mappings write it. The quote
is the apostrophe unless the text holds an apostrophe and no double quote. Inside, the
backslash and the chosen quote are escaped, tab, line feed and carriage return are written
`\t`, `\n`, `\r`, other control characters and the unprintable characters up to U+00FF are
written `\xhh`, and the remaining unprintable characters (lone surrogates among them)
`\uhhhh` or `\Uhhhhhhhh`. The ASCII form goes further and writes every character outside
ASCII in one of these escapes.
-/

namespace UiTags
namespace Text

/-- The quote character for a text: `'` unless the text has `'` and no `"`. -/
def quoteFor (cs : List Char) : Char :=
  if cs.contains '\'' && !cs.contains '"' then '"' else '\''

/-- A character outside ASCII as an escape: `\xhh`, `\uhhhh` or `\Uhhhhhhhh`. -/
def codeEscape (c : Char) : List Char :=
  let n := codePoint c
  if n ≤ 0xFF then '\\' :: 'x' :: hexDigits 2 n
  else if n ≤ 0xFFFF then '\\' :: 'u' :: hexDigits 4 n
  else '\\' :: 'U' :: hexDigits 8 n

/-- One character inside quotes `q`. -/
def quoteChar (q : Char) (c : Char) : List Char :=
  if c == q || c == '\\' then ['\\', c]
  else if c == '\t' then ['\\', 't']
  else if c == '\n' then ['\\', 'n']
  else if c == '\r' then ['\\', 'r']
  else if c.toNat < 0x20 || c.toNat == 0x7F then '\\' :: 'x' :: hexDigits 2 c.toNat
  else if c.toNat < 0x7F || (isPrintable c && !isLone c) then [c]
  else codeEscape c

/-- The quoted form of a text. -/
def quote (s : String) : String :=
  let cs := s.toList
  let q := quoteFor cs
  String.ofList (q :: cs.flatMap (quoteChar q) ++ [q])

/-- A text with every character outside ASCII written as an escape. -/
def asciiEscape (s : String) : String :=
  String.ofList (s.toList.flatMap fun c => if c.toNat < 0x80 then [c] else codeEscape c)

end Text
end UiTags
