import UiTags.Text.Basic

/-!
# Lone surrogates

A text read from JSON or from an escape may hold a surrogate code point (U+D800 to U+DFFF) that
no partner completes to a pair. A `Char` is a Unicode scalar value and cannot be one, so such a
code point is kept as the character at the same offset from U+DD800, in plane 13, where no
character is assigned and no text is expected to reach. Quoting writes the
surrogate's own code point back, and writing such a text to a stream that must be valid UTF-8
fails, and a stream that replaces what it cannot encode writes the escape `\udxxx`.
-/

namespace UiTags
namespace Text

/-- The character standing for the surrogate U+D800. -/
def loneBase : Nat := 0xDD800

/-- Whether a code point is a surrogate. -/
def isSurrogate (n : Nat) : Bool := 0xD800 ≤ n && n ≤ 0xDFFF

/-- Whether a character stands for a lone surrogate. -/
def isLone (c : Char) : Bool := loneBase ≤ c.toNat && c.toNat < loneBase + 0x800

/-- The character of a code point up to U+10FFFF, a surrogate kept as the character standing
for it. -/
def ofCode (n : Nat) : Char :=
  if isSurrogate n then Char.ofNat (n - 0xD800 + loneBase) else Char.ofNat n

/-- The code point a character stands for: its own, or the surrogate it keeps. -/
def codePoint (c : Char) : Nat :=
  if isLone c then c.toNat - loneBase + 0xD800 else c.toNat

/-- Whether a text holds a lone surrogate. -/
def hasLone (s : String) : Bool := s.toList.any isLone

/-- A text with each lone surrogate written as its escape `\udxxx`, as a stream that must be
valid UTF-8 writes it when it replaces what it cannot encode by backslash escapes. -/
def escapeLone (s : String) : String :=
  if hasLone s then
    String.ofList (s.toList.flatMap fun c =>
      if isLone c then '\\' :: 'u' :: hexDigits 4 (codePoint c) else [c])
  else s

end Text
end UiTags
