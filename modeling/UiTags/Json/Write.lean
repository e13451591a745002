import UiTags.Value
import UiTags.Text.Lone

/-!
# Writing JSON documents

A `Value` as compact JSON with ASCII output: mapping entries are separated by `, ` and keys
from values by `: `; in strings the quote, the backslash and the control characters are
escaped, and every character outside printable ASCII is written as `\uhhhh` (two escapes, a
surrogate pair, above U+FFFF; a lone surrogate as itself). Numbers are written by their shortest digits; the infinities
and not-a-number are `Infinity`, `-Infinity` and `NaN`.
-/

namespace UiTags
namespace Json

/-- A UTF-16 unit as a `\uhhhh` escape. -/
def unitEscape (n : Nat) : List Char := '\\' :: 'u' :: Text.hexDigits 4 n

/-- One character of a JSON string with ASCII output. -/
def escapeChar (c : Char) : List Char :=
  if c == '"' then ['\\', '"']
  else if c == '\\' then ['\\', '\\']
  else if c == '\n' then ['\\', 'n']
  else if c == '\r' then ['\\', 'r']
  else if c == '\t' then ['\\', 't']
  else if c.toNat == 8 then ['\\', 'b']
  else if c.toNat == 12 then ['\\', 'f']
  else if Text.isLone c then unitEscape (Text.codePoint c)
  else if c.toNat < 0x20 || 0x7E < c.toNat then
    if c.toNat < 0x10000 then unitEscape c.toNat
    else
      let v := c.toNat - 0x10000
      unitEscape (0xD800 + v / 0x400) ++ unitEscape (0xDC00 + v % 0x400)
  else [c]

/-- A JSON string literal with ASCII output. -/
def stringChars (s : String) : List Char :=
  '"' :: s.toList.flatMap escapeChar ++ ['"']

/-- The JSON spelling of a binary64 number. -/
def numberChars : Binary64 → List Char
  | .nan => "NaN".toList
  | .infinite neg => (if neg then "-Infinity" else "Infinity").toList
  | x => x.text.toList

mutual

/-- A value as JSON characters. -/
def valueChars : Value → List Char
  | .null => "null".toList
  | .bool b => (if b then "true" else "false").toList
  | .int n => (toString n).toList
  | .float x => numberChars x
  | .str s => stringChars s
  | .list items => '[' :: itemsChars items ++ [']']
  | .obj fields => '{' :: fieldsChars fields ++ ['}']

/-- List items as JSON characters, separated by `, `. -/
def itemsChars : List Value → List Char
  | [] => []
  | [v] => valueChars v
  | v :: rest => valueChars v ++ ',' :: ' ' :: itemsChars rest

/-- Mapping entries as JSON characters, separated by `, `. -/
def fieldsChars : List (String × Value) → List Char
  | [] => []
  | [(k, v)] => stringChars k ++ ':' :: ' ' :: valueChars v
  | (k, v) :: rest => stringChars k ++ ':' :: ' ' :: valueChars v ++ ',' :: ' ' :: fieldsChars rest

end

/-- A value as a JSON text. -/
def write (v : Value) : String := String.ofList (valueChars v)

end Json
end UiTags
