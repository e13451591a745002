import UiTags.Markup.Entities
import UiTags.Text.Basic
import UiTags.Text.Methods

/-!
# Reading markup back as text

`unescape` replaces character references by the characters they stand for, as browsers read
them: `&#65;` and `&#x41;` by code point (with the replacements of `numericRef`), and named
references by their text. A named reference not known whole is read as its longest known
beginning followed by the rest, the way `&ampx` reads as `&x`; an ampersand that starts no
reference stays.

`stripTags` removes comments (`<!-- ... -->`) and tags (`<...>`) in one pass, each up to the
first end mark after its opening mark; an opening mark without an end mark stops the pass,
keeping everything from it on. Runs of blanks then become one space, blanks at the ends go,
and references are unescaped.
-/

namespace UiTags
namespace Html

/-- Whether a character may be part of a named reference. -/
def isNameChar (c : Char) : Bool :=
  !(c == '\t' || c == '\n' || c == '\x0c' || c == ' ' || c == '<' || c == '&' || c == '#' ||
    c == ';')

/-- Whether a character is an ASCII hexadecimal digit. -/
def isHexChar (c : Char) : Bool :=
  c.isDigit || ('a' ≤ c && c ≤ 'f') || ('A' ≤ c && c ≤ 'F')

/-- The value of ASCII digits in a base. -/
def digitsValue (base : Nat) (ds : List Char) : Nat :=
  ds.foldl (fun n c =>
    base * n + (if c.isDigit then c.toNat - '0'.toNat
      else if 'a' ≤ c && c ≤ 'f' then c.toNat - 'a'.toNat + 10 else c.toNat - 'A'.toNat + 10)) 0

/-- The text of a named reference `name` (its `;` included when written): the whole name when
known, else its longest known beginning of at least two characters and the rest, else the
reference as written. -/
def namedRef (name : List Char) : List Char :=
  match entity? (String.ofList name) with
  | some t => t.toList
  | none =>
    let found := ((List.range (name.length - 2)).reverse.map (· + 2)).findSome? fun k =>
      (entity? (String.ofList (name.take k))).map fun t => t.toList ++ name.drop k
    found.getD ('&' :: name)

/-- The reference at the start of the text after an ampersand, if one is there: its text and
the rest. -/
def reference? (cs : List Char) : Option (List Char × List Char) :=
  let semi (rest : List Char) : List Char := match rest with
    | ';' :: more => more
    | _ => rest
  match cs with
  | '#' :: x :: rest =>
    if x == 'x' || x == 'X' then
      let ds := rest.takeWhile isHexChar
      if ds.isEmpty then none
      else some ((numericRef (digitsValue 16 ds)).toList, semi (rest.drop ds.length))
    else
      let ds := (x :: rest).takeWhile Char.isDigit
      if ds.isEmpty then none
      else some ((numericRef (digitsValue 10 ds)).toList, semi ((x :: rest).drop ds.length))
  | _ =>
    let name := (cs.takeWhile isNameChar).take 32
    if name.isEmpty then none
    else
      let rest := cs.drop name.length
      match rest with
      | ';' :: more => some (namedRef (name ++ [';']), more)
      | _ => some (namedRef name, rest)

/-- Character references replaced by the characters they stand for; `fuel` bounds the
characters read. -/
def unescapeChars : Nat → List Char → List Char
  | 0, cs => cs
  | _, [] => []
  | fuel + 1, '&' :: rest =>
    match reference? rest with
    | some (t, after) => t ++ unescapeChars fuel after
    | none => '&' :: unescapeChars fuel rest
  | fuel + 1, c :: rest => c :: unescapeChars fuel rest

/-- A text with its character references replaced. -/
def unescape (s : String) : String :=
  if s.toList.contains '&' then String.ofList (unescapeChars s.length s.toList) else s

/-- Comments and tags removed in one pass from left to right. At each `<`, a comment
(`<!--`) runs to the first `-->` after its opening mark, and a tag to the first `>`; a
comment or tag with no end stops the pass, leaving it and everything after it. -/
def removeMarks : Nat → List Char → List Char
  | 0, cs => cs
  | fuel + 1, cs =>
    match cs.idxOf? '<' with
    | none => cs
    | some i =>
      let after := cs.drop i
      if after.take 4 == "<!--".toList then
        match Text.firstAt "-->".toList (after.drop 4) with
        | none => cs
        | some j => cs.take i ++ removeMarks fuel (after.drop (j + 7))
      else
        match after.idxOf? '>' with
        | none => cs
        | some j => cs.take i ++ removeMarks fuel (after.drop (j + 1))

/-- A text with comments and tags removed, its blanks collapsed and its references
unescaped. -/
def stripTags (s : String) : String :=
  let cs := removeMarks s.length s.toList
  unescape (" ".intercalate (Text.words (String.ofList cs)))

end Html
end UiTags
