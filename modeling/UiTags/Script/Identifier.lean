import UiTags.Text.Class.Word

/-!
# Script identifiers

The names accepted for callbacks, classes and functions written unquoted into scripts: an ASCII
letter, `_` or `$`, then word characters (`Text.isWordChar`) or `$`. As with an end-anchored
pattern, one line feed at the very end is let through.
-/

namespace UiTags
namespace Script

/-- Whether a character may start a name. -/
def isNameStart (c : Char) : Bool :=
  ('A' ≤ c && c ≤ 'Z') || ('a' ≤ c && c ≤ 'z') || c == '_' || c == '$'

/-- Whether a character may continue a name. -/
def isNamePart (c : Char) : Bool :=
  Text.isWordChar c || c == '$'

/-- Whether the characters form a name. -/
def isNameChars : List Char → Bool
  | [] => false
  | c :: rest => isNameStart c && rest.all isNamePart

/-- Whether a text is a name, one trailing line feed allowed. -/
def isIdentifier (s : String) : Bool :=
  let cs := s.toList
  isNameChars cs || (cs.getLast? == some '\n' && isNameChars cs.dropLast)

end Script
end UiTags
