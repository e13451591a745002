import UiTags.Text.Class.Blank

/-!
# Text operations

Trimming, splitting and replacing on character lists, with `String` forms beside them. Blank
means `Text.isBlank`, the Unicode notion of white space that attribute values, class lists and
bind expressions are trimmed by.

Splitting at a separator keeps empty pieces, so `"a,,b"` has three pieces and the empty text
has one; `words` splits at runs of blanks and keeps no empty piece.
-/

namespace UiTags
namespace Text

/-- Drop the characters satisfying `p` from both ends. -/
def trimBy (p : Char → Bool) (cs : List Char) : List Char :=
  ((cs.dropWhile p).reverse.dropWhile p).reverse

/-- Drop the characters satisfying `p` from the end only. -/
def trimEndBy (p : Char → Bool) (cs : List Char) : List Char :=
  (cs.reverse.dropWhile p).reverse

/-- A text without its leading and trailing blanks. -/
def strip (s : String) : String :=
  String.ofList (trimBy isBlank s.toList)

/-- A text is blank when every character of it is blank; the empty text is blank. -/
def isBlankText (s : String) : Bool :=
  s.toList.all isBlank

/-- A text without the trailing characters that equal `c`. -/
def trimEndChar (c : Char) (s : String) : String :=
  String.ofList (trimEndBy (· == c) s.toList)

/-- A text without the leading characters that equal `c`. -/
def trimStartChar (c : Char) (s : String) : String :=
  String.ofList (s.toList.dropWhile (· == c))

/-- The pieces of a character list between the occurrences of `sep`, empty pieces kept. -/
def splitChars (sep : Char) (cs : List Char) : List (List Char) :=
  cs.splitOn sep

/-- The pieces of a text between the occurrences of `sep`, empty pieces kept. -/
def splitAt (sep : Char) (s : String) : List String :=
  (splitChars sep s.toList).map String.ofList

/-- The non-empty runs of non-blank characters, in order. -/
def words (s : String) : List String :=
  (((s.toList.map fun c => if isBlank c then ' ' else c).splitOn ' ').filter (· ≠ [])).map
    String.ofList

/-- The text before and after the first occurrence of `sep`, or `none` when there is none. -/
def splitFirst (sep : Char) : List Char → Option (List Char × List Char)
  | [] => none
  | c :: rest =>
    if c == sep then some ([], rest)
    else (splitFirst sep rest).map fun p => (c :: p.1, p.2)

/-- The text before and after the last occurrence of `sep`, or `none` when there is none. -/
def splitLast (sep : Char) (cs : List Char) : Option (List Char × List Char) :=
  (splitFirst sep cs.reverse).map fun p => (p.2.reverse, p.1.reverse)

/-- Every occurrence of `pat`, left to right and without overlap, replaced by `rep`. -/
def replaceAll (pat rep : List Char) (cs : List Char) : List Char :=
  match pat with
  | [] => cs
  | p :: ps => go p ps cs
where
  /-- Scan for the pattern `p :: ps`. -/
  go (p : Char) (ps : List Char) : List Char → List Char
    | [] => []
    | c :: rest =>
      if c == p && ps.isPrefixOf rest then rep ++ go p ps (rest.drop ps.length)
      else c :: go p ps rest
  termination_by cs => cs.length
  decreasing_by
    all_goals simp only [List.length_drop, List.length_cons]
    all_goals omega

/-- `replaceAll` on texts. -/
def replaceText (pat rep : String) (s : String) : String :=
  String.ofList (replaceAll pat.toList rep.toList s.toList)

/-- A text as a file read as text gives it back: every line break, a carriage return and line
feed or a carriage return alone, made a line feed. -/
def lineFeeds (s : String) : String :=
  replaceText "\r" "\n" (replaceText "\r\n" "\n" s)

/-- The lowest `n` digits of a number in base 16, lower case, padded with zeros. -/
def hexDigits : Nat → Nat → List Char
  | 0, _ => []
  | n + 1, v => hexDigits n (v / 16) ++ [Nat.digitChar (v % 16)]

/-- Texts joined by a comma and a space. -/
def commaList (xs : List String) : String :=
  String.intercalate ", " xs

end Text
end UiTags
