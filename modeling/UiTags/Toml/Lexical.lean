import UiTags.Toml.Value
import UiTags.Text.Quoted

/-!
# TOML lexical rules

The pieces a TOML document is made of, each read from the front of the unread characters:
blanks and comments, keys, the four kinds of string, numbers, dates and times.

* Blanks are spaces and tabs; newlines end statements. A comment runs from `#` to the end of
  the line and may hold no control character other than a tab.
* A basic string (`"…"`) takes the escapes `\b \t \n \f \r \" \\`, `\uXXXX` and `\UXXXXXXXX`
  (a Unicode scalar value); a multi-line one (`"""…"""`) also lets a backslash at the end of a
  line swallow the line break and the blanks after it. A literal string (`'…'`, `'''…'''`)
  takes its characters as they are. A multi-line string drops a line break right after its
  opening quotes and may end with up to two extra quotes. No string holds a control character
  other than a tab, and only multi-line ones hold line breaks.
* A number is a decimal integer or float (underscores only between digits, no leading zero),
  or a hexadecimal, octal or binary integer; `inf` and `nan` may take a sign.
* A date is `YYYY-MM-DD`, optionally followed by `T`, `t` or a space and a time of day
  `HH:MM:SS` with an optional fraction (of which six digits count), then optionally `Z` or an
  offset `±HH:MM`. A time of day may also stand alone.

A failure names its reason and how many characters were left unread where it happened; the
reader turns that into a line and column.
-/

namespace UiTags
namespace Toml

/-- Why a document could not be read, and how many characters were left unread where; a
document whose values nest too deep is refused as such, whatever else is wrong with it
further on. -/
structure ReadError where
  reason : String
  left : Nat
  tooDeep : Bool
  deriving Inhabited

/-- The outcome of reading a piece: the piece and the characters after it, or the failure. -/
abbrev Step (α : Type) := Except ReadError (α × List Char)

/-- A failure with the characters left unread where it happened. -/
def fail {α : Type} (reason : String) (rest : List Char) : Except ReadError α :=
  .error ⟨reason, rest.length, false⟩

/-! ## Characters -/

/-- A space or a tab. -/
def isSpace (c : Char) : Bool := c == ' ' || c == '\t'

/-- A space, a tab or a line break. -/
def isSpaceOrBreak (c : Char) : Bool := isSpace c || c == '\n'

/-- A control character: below U+0020, or U+007F. -/
def isControl (c : Char) : Bool := c.toNat < 32 || c.toNat == 127

/-- A character no one-line string and no comment may hold. -/
def illegalInLine (c : Char) : Bool := isControl c && c != '\t'

/-- A character no multi-line string may hold. -/
def illegalInBlock (c : Char) : Bool := isControl c && c != '\t' && c != '\n'

/-- A character of a bare key: an ASCII letter or digit, `-` or `_`. -/
def isBareKeyChar (c : Char) : Bool :=
  ('a' ≤ c && c ≤ 'z') || ('A' ≤ c && c ≤ 'Z') || ('0' ≤ c && c ≤ '9') || c == '-' || c == '_'

/-- An ASCII decimal digit. -/
def isDecimal (c : Char) : Bool := '0' ≤ c && c ≤ '9'

/-- An ASCII hexadecimal digit. -/
def isHex (c : Char) : Bool := isDecimal c || ('a' ≤ c && c ≤ 'f') || ('A' ≤ c && c ≤ 'F')

/-- An octal digit. -/
def isOctal (c : Char) : Bool := '0' ≤ c && c ≤ '7'

/-- A binary digit. -/
def isBinary (c : Char) : Bool := c == '0' || c == '1'

/-- The value of a hexadecimal digit. -/
def hexValue (c : Char) : Nat :=
  if isDecimal c then c.toNat - '0'.toNat
  else if 'a' ≤ c && c ≤ 'f' then c.toNat - 'a'.toNat + 10
  else c.toNat - 'A'.toNat + 10

/-- The value of digits in a base. -/
def digitsValue (base : Nat) (ds : List Char) : Nat :=
  ds.foldl (fun n c => n * base + hexValue c) 0

/-- Whether a number is a Unicode scalar value: a code point that is no surrogate. -/
def isScalar (n : Nat) : Bool := n < 0xD800 || (0xE000 ≤ n && n ≤ 0x10FFFF)

/-- The characters after leading spaces and tabs. -/
def skipSpaces (cs : List Char) : List Char := cs.dropWhile isSpace

/-- The characters after leading spaces, tabs and line breaks. -/
def skipBlank (cs : List Char) : List Char := cs.dropWhile isSpaceOrBreak

theorem length_dropWhile_le (p : Char → Bool) (cs : List Char) :
    (cs.dropWhile p).length ≤ cs.length :=
  (List.dropWhile_suffix p).length_le

/-! ## Comments -/

/-- The message for a character a comment or string may not hold. -/
def invalidChar (c : Char) : String := s!"Found invalid character {Text.quote (String.singleton c)}"

/-- The rest of a comment's line: the characters from its line break on. -/
def commentEnd : List Char → Except ReadError (List Char)
  | [] => .ok []
  | c :: cs =>
    if c == '\n' then .ok (c :: cs)
    else if illegalInLine c then fail (invalidChar c) (c :: cs)
    else commentEnd cs

/-- Skip a comment, if one starts here. -/
def skipComment : List Char → Except ReadError (List Char)
  | '#' :: cs => commentEnd cs
  | cs => .ok cs

mutual

/-- Skip blanks, line breaks and comments, as between the items of an array. -/
def skipArraySpace : List Char → Except ReadError (List Char)
  | [] => .ok []
  | c :: cs =>
    if isSpaceOrBreak c then skipArraySpace cs
    else if c == '#' then arrayComment cs
    else .ok (c :: cs)

/-- Skip the rest of a comment between the items of an array, then what follows it. -/
def arrayComment : List Char → Except ReadError (List Char)
  | [] => .ok []
  | c :: cs =>
    if c == '\n' then skipArraySpace cs
    else if illegalInLine c then fail (invalidChar c) (c :: cs)
    else arrayComment cs

end

/-! ## Strings -/

/-- Split before the first occurrence of a pattern: what precedes it, and the rest from it on
(empty when it does not occur). -/
def breakAt (pat : List Char) : List Char → List Char × List Char
  | [] => ([], [])
  | c :: cs =>
    if pat.isPrefixOf (c :: cs) then ([], c :: cs)
    else
      let r := breakAt pat cs
      (c :: r.1, r.2)

/-- The characters up to a closing pattern, which must occur; then none of them may be
illegal. The closing pattern is left unread. -/
def scanTo (pat : List Char) (illegal : Char → Bool) (cs : List Char) : Step (List Char) :=
  let (before, rest) := breakAt pat cs
  if rest.isEmpty then fail s!"Expected {Text.quote (String.ofList pat)}" []
  else match before.find? illegal with
    | some c => fail (invalidChar c) (before.dropWhile (!illegal ·) ++ rest)
    | none => .ok (before, rest)

/-- The character a simple escape stands for. -/
def simpleEscape (c : Char) : Option Char :=
  match c with
  | 'b' => some '\x08'
  | 't' => some '\t'
  | 'n' => some '\n'
  | 'f' => some '\x0c'
  | 'r' => some '\r'
  | '"' => some '"'
  | '\\' => some '\\'
  | _ => none

/-- The message for a backslash that starts no escape. -/
def strayBackslash : String := "Unescaped '\\' in a string"

/-- Read the body of a basic string after its opening quotes, up to and past its closing
quotes; `block` for a multi-line string. `acc` holds what was read so far, last first. -/
def basicBody (block : Bool) (acc : List Char) (cs : List Char) : Step String :=
  match cs with
  | [] => fail "Unterminated string" []
  | c :: rest =>
    if c == '"' then
      if !block then .ok (String.ofList acc.reverse, rest)
      else if rest.take 2 == ['"', '"'] then .ok (String.ofList acc.reverse, rest.drop 2)
      else basicBody block ('"' :: acc) rest
    else if c == '\\' then
      match rest with
      | e :: r =>
        if block && e == '\n' then basicBody block acc (skipBlank r)
        else if block && isSpace e then
          match _h : skipSpaces r with
          | [] => basicBody block acc []
          | '\n' :: r' => basicBody block acc (skipBlank r')
          | other => fail strayBackslash other
        else if e == 'u' || e == 'U' then
          let width := if e == 'u' then 4 else 8
          let ds := r.take width
          if ds.length != width || !ds.all isHex then fail "Invalid hex value" r
          else
            let n := digitsValue 16 ds
            if isScalar n then basicBody block (Char.ofNat n :: acc) (r.drop width)
            else fail "Escaped character is not a Unicode scalar value" (r.drop width)
        else match simpleEscape e with
          | some ch => basicBody block (ch :: acc) r
          | none => fail strayBackslash r
      | [] => fail strayBackslash []
    else if (if block then illegalInBlock c else illegalInLine c) then
      fail s!"Illegal character {Text.quote (String.singleton c)}" cs
    else basicBody block (c :: acc) rest
termination_by cs.length
decreasing_by
  all_goals simp only [List.length_cons, List.length_nil, List.length_drop]
  all_goals first
    | omega
    | (have hb := length_dropWhile_le isSpaceOrBreak r; simp only [skipBlank]; omega)
    | (have h2 := congrArg List.length _h
       have := length_dropWhile_le isSpace r
       have := length_dropWhile_le isSpaceOrBreak r'
       simp only [skipSpaces, skipBlank, List.length_cons] at *
       omega)

/-- Read a one-line literal string after its opening apostrophe. -/
def literalLine (cs : List Char) : Step String :=
  match scanTo ['\''] illegalInLine cs with
  | .ok (body, rest) => .ok (String.ofList body, rest.drop 1)
  | .error e => .error e

/-- Up to two extra closing delimiters after a multi-line string's closing three. -/
def extraDelims (delim : Char) (text : String) (cs : List Char) : String × List Char :=
  match cs with
  | a :: b :: rest =>
    if a == delim then
      if b == delim then (text ++ String.ofList [delim, delim], rest)
      else (text.push delim, b :: rest)
    else (text, cs)
  | [a] => if a == delim then (text.push delim, []) else (text, cs)
  | [] => (text, [])

/-- Read a multi-line string after its opening three delimiters; `literal` for apostrophes. -/
def blockString (literal : Bool) (cs : List Char) : Step String :=
  let cs := match cs with
    | '\n' :: r => r
    | _ => cs
  let body : Step String :=
    if literal then
      match scanTo ['\'', '\'', '\''] illegalInBlock cs with
      | .ok (text, rest) => .ok (String.ofList text, rest.drop 3)
      | .error e => .error e
    else basicBody true [] cs
  match body with
  | .ok (text, rest) => .ok (extraDelims (if literal then '\'' else '"') text rest)
  | .error e => .error e

/-! ## Numbers -/

/-- More digits of a kind, each optionally preceded by one underscore. -/
def moreDigits (isD : Char → Bool) : List Char → List Char × List Char
  | [] => ([], [])
  | c :: rest =>
    if isD c then
      let r := moreDigits isD rest
      (c :: r.1, r.2)
    else if c == '_' then
      match rest with
      | d :: rest' =>
        if isD d then
          let r := moreDigits isD rest'
          ('_' :: d :: r.1, r.2)
        else ([], c :: rest)
      | [] => ([], [c])
    else ([], c :: rest)

/-- A digit of a kind followed by more digits of it: the digits, and the rest. -/
def digitRun (isD : Char → Bool) : List Char → Option (List Char × List Char)
  | d :: rest =>
    if isD d then
      let r := moreDigits isD rest
      some (d :: r.1, r.2)
    else none
  | [] => none

/-- A number's text as read: its characters, the rest, and whether it is a float. -/
structure NumberText where
  text : List Char
  rest : List Char
  isFloat : Bool

/-- The fraction of a decimal number, if one follows. -/
def fractionPart : List Char → List Char × List Char
  | '.' :: rest =>
    match digitRun isDecimal rest with
    | some (ds, r) => ('.' :: ds, r)
    | none => ([], '.' :: rest)
  | cs => ([], cs)

/-- The exponent of a decimal number, if one follows. -/
def exponentPart : List Char → List Char × List Char
  | e :: rest =>
    if e == 'e' || e == 'E' then
      let (sign, r) := match rest with
        | s :: r => if s == '+' || s == '-' then ([s], r) else ([], rest)
        | [] => ([], [])
      match digitRun isDecimal r with
      | some (ds, r') => (e :: sign ++ ds, r')
      | none => ([], e :: rest)
    else ([], e :: rest)
  | [] => ([], [])

/-- A decimal number: optional sign, an integer part without leading zeros, then an optional
fraction and exponent. -/
def decimalNumber (cs : List Char) : Option NumberText :=
  let (sign, r) := match cs with
    | s :: r => if s == '+' || s == '-' then ([s], r) else ([], cs)
    | [] => ([], [])
  let intPart : Option (List Char × List Char) := match r with
    | '0' :: r' => some (['0'], r')
    | _ => digitRun isDecimal r
  match intPart with
  | none => none
  | some (ds, r) =>
    let (frac, r) := fractionPart r
    let (exp, r) := exponentPart r
    some ⟨sign ++ ds ++ frac ++ exp, r, !(frac ++ exp).isEmpty⟩

/-- A number at the front: a prefixed hexadecimal, octal or binary integer, else a decimal
number. -/
def numberText (cs : List Char) : Option NumberText :=
  let prefixed (p : Char) (isD : Char → Bool) (rest : List Char) : Option NumberText :=
    (digitRun isD rest).map fun (ds, r) => ⟨'0' :: p :: ds, r, false⟩
  let tryPrefixed : Option NumberText := match cs with
    | '0' :: 'x' :: rest => prefixed 'x' isHex rest
    | '0' :: 'o' :: rest => prefixed 'o' isOctal rest
    | '0' :: 'b' :: rest => prefixed 'b' isBinary rest
    | _ => none
  match tryPrefixed with
  | some n => some n
  | none => decimalNumber cs

/-- The value of an integer text: sign, base prefix, digits with underscores. -/
def integerValue (text : List Char) : Int :=
  let (neg, body) := match text with
    | '-' :: r => (true, r)
    | '+' :: r => (false, r)
    | r => (false, r)
  let ds := body.filter (· != '_')
  let n := match ds with
    | '0' :: 'x' :: r => digitsValue 16 r
    | '0' :: 'o' :: r => digitsValue 8 r
    | '0' :: 'b' :: r => digitsValue 2 r
    | r => digitsValue 10 r
  if neg then -(n : Int) else n

/-- The value of a decimal float text, rounded to the nearest double. -/
def floatValue (text : List Char) : Binary64 :=
  let (neg, body) := match text with
    | '-' :: r => (true, r)
    | '+' :: r => (false, r)
    | r => (false, r)
  let ds := body.filter (· != '_')
  let mantissa := ds.takeWhile fun c => c != 'e' && c != 'E'
  let expText := (ds.dropWhile fun c => c != 'e' && c != 'E').drop 1
  let intDigits := mantissa.takeWhile (· != '.')
  let fracDigits := (mantissa.dropWhile (· != '.')).drop 1
  let (expNeg, expDigits) := match expText with
    | '-' :: r => (true, r)
    | '+' :: r => (false, r)
    | r => (false, r)
  let expAbs : Int := digitsValue 10 expDigits
  let exp := if expNeg then -expAbs else expAbs
  let all := intDigits ++ fracDigits
  Binary64.ofDecimal neg (digitsValue 10 all) all.length (exp - fracDigits.length)

/-! ## Dates and times -/

/-- Two digits whose value lies in a range. -/
def twoDigits (lo hi : Nat) : List Char → Option (Nat × List Char)
  | a :: b :: rest =>
    if isDecimal a && isDecimal b then
      let n := digitsValue 10 [a, b]
      if lo ≤ n && n ≤ hi then some (n, rest) else none
    else none
  | _ => none

/-- A time of day: hours, minutes, seconds, and an optional fraction of which six digits
count. -/
def timeOfDay (cs : List Char) : Option (Time × List Char) := do
  let (h, r) ← twoDigits 0 23 cs
  let r ← match r with
    | ':' :: r => some r
    | _ => none
  let (m, r) ← twoDigits 0 59 r
  let r ← match r with
    | ':' :: r => some r
    | _ => none
  let (s, r) ← twoDigits 0 59 r
  match r with
  | '.' :: d :: r' =>
    if isDecimal d then
      let ds := d :: r'.takeWhile isDecimal
      let kept := ds.take 6
      let micro := digitsValue 10 (kept ++ List.replicate (6 - kept.length) '0')
      some (⟨h, m, s, micro⟩, r'.dropWhile isDecimal)
    else some (⟨h, m, s, 0⟩, r)
  | _ => some (⟨h, m, s, 0⟩, r)

/-- An offset from UTC in minutes: `Z`, `z`, or a sign with hours and minutes. -/
def offset (cs : List Char) : Option (Int × List Char) :=
  match cs with
  | 'Z' :: r | 'z' :: r => some (0, r)
  | s :: r =>
    if s == '+' || s == '-' then do
      let (h, r) ← twoDigits 0 23 r
      let r ← match r with
        | ':' :: r => some r
        | _ => none
      let (m, r) ← twoDigits 0 59 r
      let total : Int := (h * 60 + m : Nat)
      some (if s == '-' then -total else total, r)
    else none
  | [] => none

/-- A date: four digits of year, then month and day. -/
def calendarDate (cs : List Char) : Option (Date × List Char) :=
  match cs with
  | y1 :: y2 :: y3 :: y4 :: '-' :: r =>
    if [y1, y2, y3, y4].all isDecimal then do
      let (mo, r) ← twoDigits 1 12 r
      let r ← match r with
        | '-' :: r => some r
        | _ => none
      let (d, r) ← twoDigits 1 31 r
      some (⟨digitsValue 10 [y1, y2, y3, y4], mo, d⟩, r)
    else none
  | _ => none

/-- A moment as written: a date with an optional time of day and offset. -/
def dateAndTime (cs : List Char) : Option ((Date × Option (Time × Option Int)) × List Char) := do
  let (d, r) ← calendarDate cs
  let timed : Option ((Time × Option Int) × List Char) :=
    match r with
    | sep :: r' =>
      if sep == 'T' || sep == 't' || sep == ' ' then
        (timeOfDay r').map fun (t, r'') =>
          match offset r'' with
          | some (o, r''') => ((t, some o), r''')
          | none => ((t, none), r'')
      else none
    | [] => none
  match timed with
  | some (tz, r') => some ((d, some tz), r')
  | none => some ((d, none), r)

end Toml
end UiTags
