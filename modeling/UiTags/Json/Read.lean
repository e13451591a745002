import UiTags.Value
import UiTags.Text.Lone
import UiTags.Text.Integer

/-!
# Reading JSON documents

A JSON text becomes a `Value`. Integers without a fraction or exponent are read exactly; any
other number is rounded to binary64. The literals `NaN`, `Infinity` and `-Infinity` are read
too. A mapping that repeats a key keeps the key where it first stood and the value written last.

A document that cannot be read is refused with a reason and the character index where reading
stopped; `ReadError.message` adds the line and column. An integer of more than
`Text.digitLimit` digits is not converted, which stops the reading as well. Blanks between tokens are the space, tab,
line feed and carriage return only.

Strings are read by recursion on the number of characters left. Nested values are read with a
step bound: every step consumes at least one character, so the bound `2 * length + 2` that
`read` gives is never reached.
-/

namespace UiTags
namespace Json

/-- Why a document could not be read, and the character index where reading stopped. -/
structure ReadError where
  reason : String
  pos : Nat
  /-- The reading failed on a value it could not convert rather than on the text's grammar:
  an integer of more digits than are converted. -/
  unconvertible : Bool := false
  deriving Repr, BEq

/-- The message of a read error: the reason, then line, column and character index. -/
def ReadError.message (doc : String) (e : ReadError) : String :=
  let before := doc.toList.take e.pos
  let line := before.count '\n' + 1
  let column :=
    if before.contains '\n' then (before.reverse.takeWhile (· != '\n')).length + 1
    else e.pos + 1
  s!"{e.reason}: line {line} column {column} (char {e.pos})"

/-- What a reading step gives: a result, the index after it and the characters left. -/
abbrev Reading (α : Type) := Except ReadError (α × Nat × List Char)

/-- Whether a character separates tokens. -/
def isGap (c : Char) : Bool := c == ' ' || c == '\t' || c == '\n' || c == '\r'

/-- Step over the blanks between tokens. -/
def skipGap (pos : Nat) (cs : List Char) : Nat × List Char :=
  let n := (cs.takeWhile isGap).length
  (pos + n, cs.drop n)

/-- The value of an ASCII hexadecimal digit. -/
def hexValue? (c : Char) : Option Nat :=
  if '0' ≤ c ∧ c ≤ '9' then some (c.toNat - '0'.toNat)
  else if 'a' ≤ c ∧ c ≤ 'f' then some (c.toNat - 'a'.toNat + 10)
  else if 'A' ≤ c ∧ c ≤ 'F' then some (c.toNat - 'A'.toNat + 10)
  else none

/-- The number written by four hexadecimal digits. -/
def hex4? (a b c d : Char) : Option Nat := do
  let a ← hexValue? a
  let b ← hexValue? b
  let c ← hexValue? c
  let d ← hexValue? d
  pure (((a * 16 + b) * 16 + c) * 16 + d)

/-- The character a one-letter escape stands for. -/
def simpleEscape? (e : Char) : Option Char :=
  if e == '"' then some '"' else if e == '\\' then some '\\'
  else if e == '/' then some '/' else if e == 'b' then some (Char.ofNat 8)
  else if e == 'f' then some (Char.ofNat 12) else if e == 'n' then some '\n'
  else if e == 'r' then some '\r' else if e == 't' then some '\t' else none

/-- The rest of a string whose opening quote stands at `start`; `pos` is the index of the
first character of `cs`, and `acc` holds the characters read so far, last first. A high
surrogate escape followed by a low surrogate escape is one character; any other surrogate
escape is a lone surrogate. -/
def readString (start : Nat) : Nat → List Char → List Char → Reading String
  | _, [], _ => .error ⟨"Unterminated string starting at", start, false⟩
  | pos, '"' :: rest, acc => .ok (String.ofList acc.reverse, pos + 1, rest)
  | pos, '\\' :: rest, acc =>
    match rest with
    | [] => .error ⟨"Unterminated string starting at", start, false⟩
    | 'u' :: a :: b :: c :: d :: more =>
      if more.isEmpty then .error ⟨"Invalid \\uXXXX escape", pos + 1, false⟩
      else
        match hex4? a b c d with
        | none => .error ⟨"Invalid \\uXXXX escape", pos + 1, false⟩
        | some hi =>
          if 0xD800 ≤ hi ∧ hi ≤ 0xDBFF ∧ 6 < more.length then
            match hm : more with
            | '\\' :: 'u' :: e :: f :: g :: h :: after =>
              match hex4? e f g h with
              | none => .error ⟨"Invalid \\uXXXX escape", pos + 7, false⟩
              | some lo =>
                if 0xDC00 ≤ lo ∧ lo ≤ 0xDFFF then
                  readString start (pos + 12) after
                    (Char.ofNat (0x10000 + (hi - 0xD800) * 0x400 + (lo - 0xDC00)) :: acc)
                else readString start (pos + 6) more (Text.ofCode hi :: acc)
            | _ => readString start (pos + 6) more (Text.ofCode hi :: acc)
          else readString start (pos + 6) more (Text.ofCode hi :: acc)
    | 'u' :: _ => .error ⟨"Invalid \\uXXXX escape", pos + 1, false⟩
    | e :: more =>
      match simpleEscape? e with
      | some ch => readString start (pos + 2) more (ch :: acc)
      | none => .error ⟨"Invalid \\escape", pos, false⟩
  | pos, x :: rest, acc =>
    if x.toNat < 0x20 then .error ⟨"Invalid control character at", pos, false⟩
    else readString start (pos + 1) rest (x :: acc)
termination_by _ cs _ => cs.length
decreasing_by
  all_goals (try subst hm)
  all_goals simp only [List.length_cons]
  all_goals omega

/-- Whether a character is an ASCII digit. -/
def isDigit (c : Char) : Bool := '0' ≤ c && c ≤ '9'

/-- The number at the front of `cs`, if one stands there: an optional minus, `0` or digits not
starting with `0`, an optional fraction of at least one digit, and an optional exponent of at
least one digit (an `e` without digits is left unread). -/
def readNumber (pos : Nat) (cs : List Char) : Option (Value × Nat × List Char) :=
  let (neg, afterSign) := match cs with
    | '-' :: r => (true, r)
    | r => (false, r)
  let intDigits := match afterSign with
    | '0' :: _ => ['0']
    | r => r.takeWhile isDigit
  if intDigits.isEmpty then none
  else
      let r1 := afterSign.drop intDigits.length
      let frac := match r1 with
        | '.' :: r => if (r.head?.map isDigit).getD false then r.takeWhile isDigit else []
        | _ => []
      let r2 := if frac.isEmpty then r1 else r1.drop (frac.length + 1)
      let (expText, r3) : List Char × List Char := match r2 with
        | e :: r =>
          if e == 'e' || e == 'E' then
            let (sign, r') := match r with
              | '+' :: r' => (['+'], r')
              | '-' :: r' => (['-'], r')
              | r' => ([], r')
            let ds := r'.takeWhile isDigit
            if ds.isEmpty then ([], r2) else (e :: sign ++ ds, r'.drop ds.length)
          else ([], r2)
        | [] => ([], r2)
      let used := cs.length - r3.length
      let mant := (intDigits ++ frac).foldl (fun n c => n * 10 + (c.toNat - '0'.toNat)) 0
      if frac.isEmpty && expText.isEmpty then
        some (.int (if neg then -(mant : Int) else mant), pos + used, r3)
      else
        let expDigits := (expText.drop 1).filter isDigit
        let expAbs := expDigits.foldl (fun n c => n * 10 + (c.toNat - '0'.toNat)) 0
        let exp : Int := if expText.contains '-' then -(expAbs : Int) else expAbs
        let len := (intDigits ++ frac).length
        some (.float (Binary64.ofDecimal neg mant len (exp - frac.length)), pos + used, r3)

/-- Insert a mapping entry; a repeated key keeps its place and takes the new value. -/
def putField (fields : List (String × Value)) (k : String) (v : Value) :
    List (String × Value) :=
  if fields.any (·.1 == k) then fields.map fun p => if p.1 == k then (k, v) else p
  else fields ++ [(k, v)]

mutual

/-- The value at the front of `cs`, within `steps` nested steps. -/
def readValue : Nat → Nat → List Char → Reading Value
  | 0, pos, _ => .error ⟨"Expecting value", pos, false⟩
  | steps + 1, pos, cs =>
    match cs with
    | '"' :: rest =>
      match readString pos (pos + 1) rest [] with
      | .ok (s, p, r) => .ok (.str s, p, r)
      | .error e => .error e
    | '{' :: rest =>
      let (p, r) := skipGap (pos + 1) rest
      match r with
      | '}' :: r' => .ok (.obj [], p + 1, r')
      | _ => readFields steps p r []
    | '[' :: rest =>
      let (p, r) := skipGap (pos + 1) rest
      match r with
      | ']' :: r' => .ok (.list [], p + 1, r')
      | _ => readItems steps p r []
    | 'n' :: 'u' :: 'l' :: 'l' :: r => .ok (.null, pos + 4, r)
    | 't' :: 'r' :: 'u' :: 'e' :: r => .ok (.bool true, pos + 4, r)
    | 'f' :: 'a' :: 'l' :: 's' :: 'e' :: r => .ok (.bool false, pos + 5, r)
    | 'N' :: 'a' :: 'N' :: r => .ok (.float .nan, pos + 3, r)
    | 'I' :: 'n' :: 'f' :: 'i' :: 'n' :: 'i' :: 't' :: 'y' :: r =>
      .ok (.float (.infinite false), pos + 8, r)
    | '-' :: 'I' :: 'n' :: 'f' :: 'i' :: 'n' :: 'i' :: 't' :: 'y' :: r =>
      .ok (.float (.infinite true), pos + 9, r)
    | _ =>
      match readNumber pos cs with
      | some (.int n, p, r) =>
        if Text.tooManyDigits n.natAbs then
          .error ⟨s!"Exceeds the limit ({Text.digitLimit} digits) for integer string conversion: value has {(toString n.natAbs).length} digits; use sys.set_int_max_str_digits() to increase the limit", pos, true⟩
        else .ok (.int n, p, r)
      | some result => .ok result
      | none => .error ⟨"Expecting value", pos, false⟩

/-- List items from `cs` on, after the opening bracket; `acc` holds the items read, last first. -/
def readItems : Nat → Nat → List Char → List Value → Reading Value
  | 0, pos, _, _ => .error ⟨"Expecting value", pos, false⟩
  | steps + 1, pos, cs, acc =>
    match readValue steps pos cs with
    | .error e => .error e
    | .ok (v, p, r) =>
      let (p, r) := skipGap p r
      match r with
      | ']' :: r' => .ok (.list (v :: acc).reverse, p + 1, r')
      | ',' :: r' =>
        let (p', r'') := skipGap (p + 1) r'
        readItems steps p' r'' (v :: acc)
      | _ => .error ⟨"Expecting ',' delimiter", p, false⟩

/-- Mapping entries from `cs` on, after the opening brace; `acc` holds the entries read. -/
def readFields : Nat → Nat → List Char → List (String × Value) → Reading Value
  | 0, pos, _, _ => .error ⟨"Expecting value", pos, false⟩
  | steps + 1, pos, cs, acc =>
    match cs with
    | '"' :: rest =>
      match readString pos (pos + 1) rest [] with
      | .error e => .error e
      | .ok (k, p, r) =>
        let (p, r) := skipGap p r
        match r with
        | ':' :: r' =>
          let (p, r) := skipGap (p + 1) r'
          match readValue steps p r with
          | .error e => .error e
          | .ok (v, p, r) =>
            let acc := putField acc k v
            let (p, r) := skipGap p r
            match r with
            | '}' :: r' => .ok (.obj acc, p + 1, r')
            | ',' :: r' =>
              let (p', r'') := skipGap (p + 1) r'
              readFields steps p' r'' acc
            | _ => .error ⟨"Expecting ',' delimiter", p, false⟩
        | _ => .error ⟨"Expecting ':' delimiter", p, false⟩
    | _ => .error ⟨"Expecting property name enclosed in double quotes", pos, false⟩

end

/-- Read a whole document: one value between optional blanks. A leading byte order mark is
refused. -/
def read (doc : String) : Except ReadError Value :=
  let cs := doc.toList
  match cs with
  | c :: _ =>
    if c.toNat == 0xFEFF then .error ⟨"Unexpected UTF-8 BOM (decode using utf-8-sig)", 0, false⟩
    else readDocument cs
  | [] => readDocument cs
where
  /-- One value between optional blanks, and nothing after. -/
  readDocument (cs : List Char) : Except ReadError Value :=
    let (p, r) := skipGap 0 cs
    match readValue (2 * cs.length + 2) p r with
    | .error e => .error e
    | .ok (v, p, r) =>
      let (p, r) := skipGap p r
      if r.isEmpty then .ok v else .error ⟨"Extra data", p, false⟩

end Json
end UiTags
