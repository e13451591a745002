import UiTags.Text.Class.Word
import UiTags.Text.Class.Digit
import UiTags.Text.Class.Blank
import UiTags.Text.Methods

/-!
# Wrapping text into lines

A paragraph is cut into chunks and the chunks are packed greedily into lines of at most
`width` characters.

The chunks are runs of blanks (tab, line feed, vertical tab, form feed, carriage return and
space) and words. When hyphens may break lines, a word also ends after a hyphen that follows
two letters (or a letter, a hyphen and a letter) and comes before a letter, with perhaps one
more hyphen before the next letter, and at a dash of two or more hyphens between a word
character or punctuation and a word character, the dash being a chunk of its own. Letters
here are the word characters that are not decimal digits.

Packing starts every line but the first by dropping a leading blank chunk, takes chunks while
they fit, and drops a trailing blank chunk. A chunk longer than any line is cut, when long
words may break, at the room left on the line, or just after the last hyphen within that
room when hyphens may break and something other than hyphens comes before it; otherwise it
gets a line of its own.
-/

namespace UiTags
namespace Text

/-- The blanks that separate chunks. -/
def isWrapBlank (c : Char) : Bool :=
  c == '\t' || c == '\n' || c == '\x0b' || c == '\x0c' || c == '\r' || c == ' '

/-- Letters for wrapping: word characters that are not decimal digits. -/
def isWrapLetter (c : Char) : Bool := isWordChar c && (decimalValue? c).isNone

/-- Characters a dash may follow: word characters and some punctuation. -/
def isWordPunct (c : Char) : Bool :=
  isWordChar c || c == '!' || c == '"' || c == '\'' || c == '&' || c == '.' || c == ',' || c == '?'

/-- How to wrap: the line width, and whether long words and hyphenated words may break. -/
structure WrapRule where
  width : Nat
  breakLongWords : Bool := true
  breakOnHyphens : Bool := true

/-- The first position from `i` on where a character fails a test. -/
def runEnd (t : Array Char) (p : Char → Bool) (i : Nat) : Nat :=
  let rec go : Nat → Nat → Nat
    | 0, k => k
    | fuel + 1, k => if (t[k]?).any p then go fuel (k + 1) else k
  go (t.size + 1) i

/-- Whether the character at a position passes a test (false past the end). -/
def charIs (t : Array Char) (p : Char → Bool) (k : Nat) : Bool := (t[k]?).any p

/-- Whether a dash of two or more hyphens followed by a word character starts at `k`. -/
def dashAt (t : Array Char) (k : Nat) : Bool :=
  charIs t (· == '-') k && charIs t (· == '-') (k + 1) &&
    charIs t isWordChar (runEnd t (· == '-') k)

/-- Whether a word may end just after the hyphen at `j`: it follows two letters, or a letter,
a hyphen and a letter, and a letter follows it, perhaps after one more hyphen and before a
letter. -/
def hyphenBreakAt (t : Array Char) (j : Nat) : Bool :=
  charIs t (· == '-') j &&
    ((2 ≤ j && charIs t isWrapLetter (j - 2) && charIs t isWrapLetter (j - 1)) ||
     (3 ≤ j && charIs t isWrapLetter (j - 3) && charIs t (· == '-') (j - 2) &&
        charIs t isWrapLetter (j - 1))) &&
    charIs t isWrapLetter (j + 1) &&
    (charIs t isWrapLetter (j + 2) ||
      (charIs t (· == '-') (j + 2) && charIs t isWrapLetter (j + 3)))

/-- The end of the word chunk starting at `i`: the first place after at least one character
where the word may end. -/
def wordEnd (t : Array Char) (i : Nat) : Nat :=
  let stop := runEnd t (fun c => !isWrapBlank c) i
  let rec go : Nat → Nat → Nat
    | 0, _ => stop
    | fuel + 1, j =>
      if stop ≤ j then stop
      else if hyphenBreakAt t j then j + 1
      else if charIs t isWordPunct (j - 1) && dashAt t j then j
      else go fuel (j + 1)
  go (stop - i) (i + 1)

/-- The end of the chunk starting at `i`. -/
def chunkEnd (hyphens : Bool) (t : Array Char) (i : Nat) : Nat :=
  if charIs t isWrapBlank i then runEnd t isWrapBlank i
  else if !hyphens then runEnd t (fun c => !isWrapBlank c) i
  else if 0 < i && charIs t isWordPunct (i - 1) && dashAt t i then runEnd t (· == '-') i
  else wordEnd t i

/-- The chunks of a text. -/
def chunks (hyphens : Bool) (cs : List Char) : List (List Char) :=
  let t := cs.toArray
  let rec go : Nat → Nat → List (List Char)
    | 0, _ => []
    | fuel + 1, i =>
      if t.size ≤ i then []
      else
        let e := max (chunkEnd hyphens t i) (i + 1)
        (t.extract i e).toList :: go fuel e
  go t.size 0

/-- Whether a chunk is all blanks. -/
def blankChunk (c : List Char) : Bool := c.all isBlank

/-- Chunks taken from the front while they fit in `room`: the taken chunks, their length and
the rest. -/
def fillLine (room : Nat) : List (List Char) → List (List Char) × Nat × List (List Char)
  | [] => ([], 0, [])
  | c :: rest =>
    if c.length ≤ room then
      let r := fillLine (room - c.length) rest
      (c :: r.1, c.length + r.2.1, r.2.2)
    else ([], 0, c :: rest)

/-- A chunk too long for any line handled: cut into the room left (after a hyphen when
allowed), or moved whole onto an empty line, or left for the next line. -/
def longChunk (rule : WrapRule) (line : List (List Char)) (used : Nat) :
    List (List Char) → List (List Char) × List (List Char)
  | [] => (line, [])
  | c :: rest =>
    if rule.breakLongWords then
      let room := if rule.width < 1 then 1 else rule.width - used
      let cut :=
        if rule.breakOnHyphens && room < c.length then
          match lastAt ['-'] (c.take room) with
          | some h => if 0 < h && (c.take h).any (· != '-') then h + 1 else room
          | none => room
        else room
      (line ++ [c.take cut], c.drop cut :: rest)
    else if line.isEmpty then (line ++ [c], rest)
    else (line, c :: rest)

/-- Chunks packed into lines. -/
def packLines (rule : WrapRule) : Nat → List (List Char) → List (List Char) → List (List Char)
  | 0, _, lines => lines.reverse
  | _, [], lines => lines.reverse
  | fuel + 1, c :: rest, lines =>
    let pending := if blankChunk c && !lines.isEmpty then rest else c :: rest
    let (line, used, pending) := fillLine rule.width pending
    let (line, pending) := match pending with
      | next :: _ => if rule.width < next.length then longChunk rule line used pending
        else (line, pending)
      | [] => (line, pending)
    let line := match line.getLast? with
      | some last => if blankChunk last then line.dropLast else line
      | none => line
    let lines := if line.isEmpty then lines else line.flatten :: lines
    packLines rule fuel pending lines

/-- A paragraph wrapped into lines. -/
def wrap (rule : WrapRule) (cs : List Char) : List (List Char) :=
  let cks := chunks rule.breakOnHyphens cs
  packLines rule (cs.length + cks.length + 1) cks []

theorem fillLine_fits (room : Nat) (cs : List (List Char)) : (fillLine room cs).2.1 ≤ room := by
  induction cs generalizing room with
  | nil => simp [fillLine]
  | cons c rest ih =>
    unfold fillLine
    split
    · have := ih (room - c.length)
      dsimp only
      omega
    · simp

end Text
end UiTags
