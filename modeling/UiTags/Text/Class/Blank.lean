/-!
# Blank characters

A character is blank when the Unicode 14 character database gives it general category Zs or
bidirectional class WS, B or S. Besides the ASCII tab, line feed, vertical tab, form feed,
carriage return and space, that takes in the four information separators U+001C to U+001F,
U+0085, the no-break space, the Ogham space mark, the spaces U+2000 to U+200A, the line and
paragraph separators, the narrow no-break space, the medium mathematical space and the
ideographic space. The byte order mark U+FEFF is not blank.
-/

namespace UiTags
namespace Text

/-- Inclusive code point ranges, ascending, of the blank characters. -/
def blankRanges : List (Nat × Nat) :=
  [(0x09, 0x0D), (0x1C, 0x20), (0x85, 0x85), (0xA0, 0xA0), (0x1680, 0x1680),
   (0x2000, 0x200A), (0x2028, 0x2029), (0x202F, 0x202F), (0x205F, 0x205F),
   (0x3000, 0x3000)]

/-- A character is blank when one of the blank ranges holds its code point. -/
def isBlank (c : Char) : Bool :=
  blankRanges.any fun r => r.1 ≤ c.toNat && c.toNat ≤ r.2

end Text
end UiTags
