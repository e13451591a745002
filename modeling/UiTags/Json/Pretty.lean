import UiTags.Json.Write

/-!
# Indented JSON

JSON as the command line prints a structured answer: two spaces of indentation per level, one
member or item per line, a member's name and value separated by `": "`, and empty arrays and
objects written `[]` and `{}`. Text keeps every character as it is except the quote, the
backslash and the control characters: `\b \f \n \r \t` take short escapes, the other control
characters `\u00XX` with lower-case digits.
-/

namespace UiTags
namespace Json

/-- The escape of one character of a text. -/
def prettyEscape (c : Char) : List Char :=
  if c == '"' then ['\\', '"']
  else if c == '\\' then ['\\', '\\']
  else if c == '\n' then ['\\', 'n']
  else if c == '\r' then ['\\', 'r']
  else if c == '\t' then ['\\', 't']
  else if c == '\x08' then ['\\', 'b']
  else if c == '\x0c' then ['\\', 'f']
  else if c.toNat < 32 then ['\\', 'u', '0', '0'] ++ Text.hexDigits 2 c.toNat
  else [c]

/-- A text in quotes, escaped. -/
def prettyText (s : String) : String :=
  String.ofList ('"' :: s.toList.flatMap prettyEscape ++ ['"'])

/-- Spaces for an indentation level. -/
def indentText (n : Nat) : String := String.ofList (List.replicate n ' ')

mutual

/-- A value written at an indentation. -/
def pretty (indent : Nat) : Value → String
  | .str s => prettyText s
  | .list [] => "[]"
  | .list items =>
    "[\n" ++ ",\n".intercalate (prettyItems (indent + 2) items) ++ "\n" ++ indentText indent ++ "]"
  | .obj [] => "\x7b\x7d"
  | .obj fields =>
    "\x7b\n" ++ ",\n".intercalate (prettyFields (indent + 2) fields) ++ "\n" ++ indentText indent ++ "\x7d"
  | v => write v

/-- Items, each on its own line at an indentation. -/
def prettyItems (indent : Nat) : List Value → List String
  | [] => []
  | v :: vs => (indentText indent ++ pretty indent v) :: prettyItems indent vs

/-- Members, each on its own line at an indentation. -/
def prettyFields (indent : Nat) : List (String × Value) → List String
  | [] => []
  | (k, v) :: rest =>
    (indentText indent ++ prettyText k ++ ": " ++ pretty indent v) :: prettyFields indent rest

end

end Json
end UiTags
