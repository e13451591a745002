import UiTags.Text.Upper
import UiTags.Text.Basic
import UiTags.Text.Class.Alpha
import UiTags.Text.Class.Digit
import UiTags.Text.Class.Printable

/-!
# Operations on texts

The operations a template can ask of a text: searching and counting within optional bounds,
splitting (at a separator, at runs of white space, at line boundaries, into three parts at the
first or last separator), trimming, padding, expanding tabs, changing case, and the tests of
what kind of characters a text holds.

Bounds are given as slice bounds are: a negative bound counts from the end, a bound past the end
stands for the end, and an absent one for the start or the end. White space is the blank class
(`isBlank`). Case changes use the full mappings of the character database: a character may
change into several, a capital sigma at the end of a word lowers to the final form, and title
case starts every run of cased characters.
-/

namespace UiTags
namespace Text

/-! ## Bounds and searching -/

/-- The start and stop that optional bounds give in a text of length `len`: the stop clamped to
`0 … len`, the start only from below. -/
def searchBounds (len : Nat) (start stop : Option Int) : Int × Int :=
  let n : Int := len
  let e : Int := match stop with
    | none => n
    | some e => if n < e then n else if e < 0 then max (e + n) 0 else e
  let s : Int := match start with
    | none => 0
    | some s => if s < 0 then max (s + n) 0 else s
  (s, e)

/-- The characters between a start and a stop. -/
def window (cs : List Char) (start stop : Int) : List Char :=
  (cs.drop start.toNat).take (stop - start).toNat

/-- The position of the first occurrence of a part in a text, if any; an empty part occurs at
the start. -/
def firstAt (part : List Char) : List Char → Option Nat
  | [] => if part.isEmpty then some 0 else none
  | c :: rest =>
    if part.isPrefixOf (c :: rest) then some 0 else (firstAt part rest).map (· + 1)

/-- The position of the last occurrence of a part in a text, if any; an empty part occurs at
the end. -/
def lastAt (part cs : List Char) : Option Nat :=
  (firstAt part.reverse cs.reverse).map fun i => cs.length - i - part.length

/-- Where a part first occurs between bounds, or -1. -/
def find (part cs : List Char) (start stop : Option Int) : Int :=
  let (s, e) := searchBounds cs.length start stop
  if e - s < part.length then -1
  else match firstAt part (window cs s e) with
    | some i => s + i
    | none => -1

/-- Where a part last occurs between bounds, or -1. -/
def rfind (part cs : List Char) (start stop : Option Int) : Int :=
  let (s, e) := searchBounds cs.length start stop
  if e - s < part.length then -1
  else match lastAt part (window cs s e) with
    | some i => s + i
    | none => -1

/-- The occurrences of a nonempty part, left to right and without overlap. -/
def countPart (first : Char) (more : List Char) : List Char → Nat
  | [] => 0
  | c :: rest =>
    if (first :: more).isPrefixOf (c :: rest) then 1 + countPart first more (rest.drop more.length)
    else countPart first more rest
termination_by cs => cs.length
decreasing_by
  all_goals simp only [List.length_drop, List.length_cons]
  all_goals omega

/-- How often a part occurs between bounds, without overlap; an empty part occurs at every
position. -/
def count (part cs : List Char) (start stop : Option Int) : Nat :=
  let (s, e) := searchBounds cs.length start stop
  if e < s then 0
  else match part with
    | [] => (e - s).toNat + 1
    | p :: more => countPart p more (window cs s e)

/-- Whether the text between bounds starts with a part. -/
def startsWith (part cs : List Char) (start stop : Option Int) : Bool :=
  let (s, e) := searchBounds cs.length start stop
  s ≤ e - part.length && part.isPrefixOf (window cs s e)

/-- Whether the text between bounds ends with a part. -/
def endsWith (part cs : List Char) (start stop : Option Int) : Bool :=
  let (s, e) := searchBounds cs.length start stop
  s ≤ e - part.length && part.reverse.isPrefixOf (window cs s e).reverse

/-! ## Splitting -/

/-- A text split at a nonempty separator, at most `limit` times when a limit is given. -/
def splitSep (sep : List Char) (limit : Option Nat) (cs : List Char) : List (List Char) :=
  let rec go : Nat → Option Nat → List Char → List Char → List (List Char)
    | 0, _, cur, rest => [cur.reverse ++ rest]
    | fuel + 1, lim, cur, rest =>
      match rest with
      | [] => [cur.reverse]
      | c :: more =>
        if lim != some 0 && !sep.isEmpty && sep.isPrefixOf rest then
          cur.reverse :: go fuel (lim.map (· - 1)) [] (rest.drop sep.length)
        else go fuel lim (c :: cur) more
  go (cs.length + 1) limit [] cs

/-- A text split at runs of white space, at most `limit` times when a limit is given; white
space at the ends gives no empty parts. -/
def splitBlank (limit : Option Nat) (cs : List Char) : List (List Char) :=
  let rec go : Nat → Option Nat → List Char → List (List Char)
    | 0, _, _ => []
    | fuel + 1, lim, rest =>
      let rest := rest.dropWhile isBlank
      if rest.isEmpty then []
      else if lim == some 0 then [rest]
      else
        let word := rest.takeWhile (fun c => !isBlank c)
        word :: go fuel (lim.map (· - 1)) (rest.drop word.length)
  go (cs.length + 1) limit cs

/-- A text split from the right at a nonempty separator, at most `limit` times. -/
def rsplitSep (sep : List Char) (limit : Option Nat) (cs : List Char) : List (List Char) :=
  ((splitSep sep.reverse limit cs.reverse).map List.reverse).reverse

/-- A text split from the right at runs of white space, at most `limit` times. -/
def rsplitBlank (limit : Option Nat) (cs : List Char) : List (List Char) :=
  ((splitBlank limit cs.reverse).map List.reverse).reverse

/-- Whether a character ends a line. -/
def isLineBreak (c : Char) : Bool :=
  c == '\n' || c == '\r' || c == '\x0b' || c == '\x0c' || c == '\x1c' || c == '\x1d' ||
    c == '\x1e' || c.toNat == 0x85 || c.toNat == 0x2028 || c.toNat == 0x2029

/-- The lines of a text, with their line breaks when `keep` holds (a carriage return and line
feed together are one break). -/
def splitLines (keep : Bool) (cs : List Char) : List (List Char) :=
  let rec go : List Char → List Char → List (List Char)
    | [], cur => if cur.isEmpty then [] else [cur.reverse]
    | '\r' :: '\n' :: rest, cur =>
      (if keep then ('\n' :: '\r' :: cur).reverse else cur.reverse) :: go rest []
    | c :: rest, cur =>
      if isLineBreak c then (if keep then (c :: cur).reverse else cur.reverse) :: go rest []
      else go rest (c :: cur)
  go cs []

/-- A text in three parts around the first occurrence of a separator: before, separator and
after, or the text and two empty parts. -/
def partition (sep cs : List Char) : List Char × List Char × List Char :=
  match firstAt sep cs with
  | some i => (cs.take i, sep, cs.drop (i + sep.length))
  | none => (cs, [], [])

/-- A text in three parts around the last occurrence of a separator, or two empty parts and
the text. -/
def rpartition (sep cs : List Char) : List Char × List Char × List Char :=
  match lastAt sep cs with
  | some i => (cs.take i, sep, cs.drop (i + sep.length))
  | none => ([], [], cs)

/-! ## Trimming and padding -/

/-- The test for characters to trim: the given ones, or white space. -/
def trimTest (chars : Option (List Char)) : Char → Bool :=
  match chars with
  | none => isBlank
  | some cs => fun c => cs.contains c

/-- A text padded on the right with a fill character to a width. -/
def padRight (width : Nat) (fill : Char) (cs : List Char) : List Char :=
  cs ++ List.replicate (width - cs.length) fill

/-- A text padded on the left with a fill character to a width. -/
def padLeft (width : Nat) (fill : Char) (cs : List Char) : List Char :=
  List.replicate (width - cs.length) fill ++ cs

/-- A text centred in a width with a fill character; of an odd margin, the odd character goes
to the left when the width is odd. -/
def center (width : Nat) (fill : Char) (cs : List Char) : List Char :=
  let n := cs.length
  if width ≤ n then cs
  else
    let marg := width - n
    let left := marg / 2 + (marg % 2 &&& width % 2)
    List.replicate left fill ++ cs ++ List.replicate (marg - left) fill

/-- A text padded with zeros on the left to a width, after its sign if it has one. -/
def zeroFill (width : Nat) (cs : List Char) : List Char :=
  if width ≤ cs.length then cs
  else
    let zeros := List.replicate (width - cs.length) '0'
    match cs with
    | c :: rest => if c == '+' || c == '-' then c :: zeros ++ rest else zeros ++ cs
    | [] => zeros

/-- A text with each tab replaced by the spaces to the next multiple of `size` columns; line
breaks return to the first column. -/
def expandTabs (size : Int) (cs : List Char) : List Char :=
  let step (acc : List Char × Nat) (c : Char) : List Char × Nat :=
    let (out, col) := acc
    if c == '\t' then
      if 0 < size then
        let n := size.toNat - col % size.toNat
        (out ++ List.replicate n ' ', col + n)
      else (out, col)
    else if c == '\n' || c == '\r' then (out ++ [c], 0)
    else (out ++ [c], col + 1)
  (cs.foldl step ([], 0)).1

/-! ## Case -/

/-- The lower-case form of a character, a capital sigma taking its final form where it ends a
word; `before` holds the characters before it, nearest first. -/
def lowerAt (before : List Char) (c : Char) (after : List Char) : List Char :=
  if c.toNat == 0x3A3 then
    [if finalSigma before after then Char.ofNat 0x3C2 else Char.ofNat 0x3C3]
  else lowerChar c

/-- A text with its first character in title case and the others lower-case. -/
def capitalize (cs : List Char) : List Char :=
  match cs with
  | [] => []
  | c :: rest => titleChar c ++ lowerFrom [c] rest

/-- A text with every run of cased characters starting in title case and going on lower-case. -/
def title (cs : List Char) : List Char :=
  let rec go : List Char → Bool → List Char → List Char
    | _, _, [] => []
    | before, afterCased, c :: rest =>
      (if afterCased then lowerAt before c rest else titleChar c) ++
        go (c :: before) (isCased c) rest
  go [] false cs

/-- A text with upper-case characters lowered and lower-case ones raised. -/
def swapCase (cs : List Char) : List Char :=
  let rec go : List Char → List Char → List Char
    | _, [] => []
    | before, c :: rest =>
      (if isUpperChar c then lowerAt before c rest
       else if isLowerChar c then upperChar c
       else [c]) ++ go (c :: before) rest
  go [] cs

/-! ## Kinds of characters -/

/-- Whether a text is nonempty and every character passes a test. -/
def allOf (p : Char → Bool) (cs : List Char) : Bool := !cs.isEmpty && cs.all p

/-- Whether a text has a cased character and every cased character is lower-case. -/
def isLowerText (cs : List Char) : Bool :=
  !cs.any (fun c => isUpperChar c || isTitleChar c) && cs.any isLowerChar

/-- Whether a text has a cased character and every cased character is upper-case. -/
def isUpperText (cs : List Char) : Bool :=
  !cs.any (fun c => isLowerChar c || isTitleChar c) && cs.any isUpperChar

/-- Whether a text is in title case: upper-case and title-case characters only start runs of
cased characters, lower-case ones only continue them, and there is at least one. -/
def isTitleText (cs : List Char) : Bool :=
  let step (acc : Option (Bool × Bool)) (c : Char) : Option (Bool × Bool) :=
    acc.bind fun (afterCased, seen) =>
      if isUpperChar c || isTitleChar c then
        if afterCased then none else some (true, true)
      else if isLowerChar c then
        if afterCased then some (true, true) else none
      else some (false, seen)
  match cs.foldl step (some (false, false)) with
  | some (_, seen) => seen
  | none => false

/-- Whether a text is an identifier. -/
def isIdentifier (cs : List Char) : Bool :=
  match cs with
  | c :: rest => isIdentStart c && rest.all isIdentContinue
  | [] => false

/-- Whether a character is a decimal digit. -/
def isDecimalChar (c : Char) : Bool := (decimalValue? c).isSome

end Text
end UiTags
