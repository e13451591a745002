import UiTags.Json.Read

/-!
# The value of a script string literal

A script engine reads a single-quoted string literal character by character, as the grammar of
string literals gives it in strict code, and its value is a sequence of UTF-16 code units:

* a character other than the quote, the backslash, line feed and carriage return stands for
  itself: one code unit, or a surrogate pair above U+FFFF;
* a backslash starts an escape: one of `' " \ b f n r t v`; `\0` when no decimal digit follows;
  `\xhh`; `\uhhhh`; `\u{h…}` for a code point up to U+10FFFF; a backslash before a line
  terminator (a line feed, a carriage return with or without a line feed after it, or a line or
  paragraph separator), which stands for nothing; and any other character that is no decimal
  digit, `x`, `u` or line terminator, standing for itself;
* another decimal digit after a backslash (an octal escape, refused in strict code), `\x` or
  `\u` without their digits, a line feed or carriage return, and a text that ends before the
  closing quote, make the literal unreadable.

The reader is a step function over modes, one character at a time, and `readLiteral` gives the
value of the literal at the start of a text together with the text after its closing quote.
-/

namespace UiTags
namespace Script

/-- The UTF-16 code units of a code point: itself below U+10000, else a surrogate pair. -/
def utf16 (n : Nat) : List Nat :=
  if n < 0x10000 then [n]
  else [0xD800 + (n - 0x10000) / 0x400, 0xDC00 + (n - 0x10000) % 0x400]

/-- The code units of some characters, each standing for the code point it keeps. -/
def codeUnits (cs : List Char) : List Nat :=
  cs.flatMap fun c => utf16 (Text.codePoint c)

/-- Whether a character ends a line of a script: line feed, carriage return, and the line and
paragraph separators. -/
def isLineTerminator (c : Char) : Bool :=
  c == '\n' || c == '\r' || c.toNat == 0x2028 || c.toNat == 0x2029

/-- The code unit a one-character escape stands for. -/
def singleEscape? (c : Char) : Option Nat :=
  if c == '\'' then some 0x27
  else if c == '"' then some 0x22
  else if c == '\\' then some 0x5C
  else if c == 'b' then some 0x08
  else if c == 'f' then some 0x0C
  else if c == 'n' then some 0x0A
  else if c == 'r' then some 0x0D
  else if c == 't' then some 0x09
  else if c == 'v' then some 0x0B
  else none

/-- Where a reader is inside a string literal. -/
inductive LiteralMode where
  /-- Between characters. -/
  | chars
  /-- After a backslash. -/
  | escape
  /-- After `\0`, which no decimal digit may follow. -/
  | zero
  /-- After a backslash and a carriage return, which one line feed may complete. -/
  | continued
  /-- After `\u`. -/
  | unicode
  /-- Reading `left` more hex digits of one code unit, whose value so far is `acc`. -/
  | hex (left acc : Nat)
  /-- Inside `\u{…}`, with the value so far and whether a digit was read. -/
  | braced (acc : Nat) (digits : Bool)
  deriving DecidableEq, Repr

/-- What one character does to a literal: the next mode and the code units it adds, the end of
the literal (with the code units still owed), or a syntax error. -/
inductive LiteralStep where
  | next (m : LiteralMode) (units : List Nat)
  | done (units : List Nat)
  | fail
  deriving DecidableEq, Repr

/-- A step, with some code units added in front of those it adds. -/
def LiteralStep.after (us : List Nat) : LiteralStep → LiteralStep
  | .next m vs => .next m (us ++ vs)
  | .done vs => .done (us ++ vs)
  | .fail => .fail

/-- One character between characters of a literal. -/
def charStep (c : Char) : LiteralStep :=
  if c == '\'' then .done []
  else if c == '\\' then .next .escape []
  else if c == '\n' || c == '\r' then .fail
  else .next .chars (utf16 (Text.codePoint c))

/-- One character of a literal in a mode. -/
def literalStep : LiteralMode → Char → LiteralStep
  | .chars, c => charStep c
  | .escape, c =>
    if c == '\r' then .next .continued []
    else if isLineTerminator c then .next .chars []
    else match singleEscape? c with
      | some u => .next .chars [u]
      | none =>
        if c == '0' then .next .zero []
        else if '1' ≤ c ∧ c ≤ '9' then .fail
        else if c == 'x' then .next (.hex 2 0) []
        else if c == 'u' then .next .unicode []
        else .next .chars (utf16 (Text.codePoint c))
  | .zero, c => if '0' ≤ c ∧ c ≤ '9' then .fail else (charStep c).after [0]
  | .continued, c => if c == '\n' then .next .chars [] else charStep c
  | .unicode, c =>
    if c == '{' then .next (.braced 0 false) []
    else match Json.hexValue? c with
      | some v => .next (.hex 3 v) []
      | none => .fail
  | .hex left acc, c =>
    match Json.hexValue? c with
    | some v =>
      if left ≤ 1 then .next .chars [acc * 16 + v] else .next (.hex (left - 1) (acc * 16 + v)) []
    | none => .fail
  | .braced acc digits, c =>
    if c == '}' then
      if digits && acc ≤ 0x10FFFF then .next .chars (utf16 acc) else .fail
    else match Json.hexValue? c with
      | some v => .next (.braced (acc * 16 + v) true) []
      | none => .fail

/-- Read the rest of a literal from a mode: its code units and the text after the closing quote,
or nothing when the literal is unreadable or unterminated. -/
def readFrom : LiteralMode → List Char → Option (List Nat × List Char)
  | _, [] => none
  | m, c :: cs =>
    match literalStep m c with
    | .next m' us => (readFrom m' cs).map fun r => (us ++ r.1, r.2)
    | .done us => some (us, cs)
    | .fail => none

/-- Read the single-quoted string literal at the start of a text: its value and the text after
it. -/
def readLiteral : List Char → Option (List Nat × List Char)
  | '\'' :: cs => readFrom .chars cs
  | _ => none

/-- Follow some characters that each go on with the literal: the mode after them and the code
units they add, or nothing when one of them ends the literal or is refused. -/
def advance : LiteralMode → List Char → Option (LiteralMode × List Nat)
  | m, [] => some (m, [])
  | m, c :: cs =>
    match literalStep m c with
    | .next m' us => (advance m' cs).map fun r => (r.1, us ++ r.2)
    | _ => none

/-- Characters that go on with the literal add their code units in front of whatever the rest
of the text reads as. -/
theorem readFrom_append {m m' : LiteralMode} {cs : List Char} {us : List Nat}
    (h : advance m cs = some (m', us)) (rest : List Char) :
    readFrom m (cs ++ rest) = (readFrom m' rest).map fun r => (us ++ r.1, r.2) := by
  induction cs generalizing m us with
  | nil =>
    simp only [advance, Option.some.injEq, Prod.mk.injEq] at h
    obtain ⟨rfl, rfl⟩ := h
    simp
  | cons c cs ih =>
    simp only [advance] at h
    split at h
    · rename_i m₁ vs hstep
      obtain ⟨⟨m₂, ws⟩, hadv, heq⟩ := Option.map_eq_some_iff.1 h
      simp only [Prod.mk.injEq] at heq
      obtain ⟨rfl, rfl⟩ := heq
      simp only [List.cons_append, readFrom, hstep]
      rw [ih hadv, Option.map_map]
      congr 1
      funext r
      simp
    · cases h

example :
    readLiteral "'a\\x41\\u{1F600}\\0\\\n'b".toList =
      some ([0x61, 0x41, 0xD83D, 0xDE00, 0], ['b']) := by decide

example : readLiteral "'\\1'".toList = none := by decide

end Script
end UiTags
