import UiTags.Toml.Lexical

/-!
# Reading TOML documents

A document is read one statement per line: a key/value pair, a table header `[key]`, an
array-of-tables header `[[key]]`, or nothing; each may be followed by a comment. Values are
strings, numbers, truth values, dates and times, arrays (which may span lines and hold
comments) and inline tables (on one line).

A document may not set anything twice. The reader keeps marks on keys to enforce it:

* a table declared by a header, or reached as the parent in a dotted key, is *declared*: no
  header may declare it again, and no dotted key of a later table may reach into it (the
  dotted parents are marked once the next header is read);
* an inline table or an array given as a value is *frozen*, with everything below it: it may
  not be extended by headers or dotted keys.

Opening an array-of-tables entry clears the marks below its key, since the entry is new.

Failures carry a reason and the line and column where reading stopped, or "end of document".
-/

namespace UiTags
namespace Toml

/-- What a mark on a key forbids. -/
inductive Mark where
  /-- An inline table or array: nothing may be added to it. -/
  | frozen
  /-- A table declared by a header or a dotted key: it may not be declared again. -/
  | declared
  deriving DecidableEq, Repr

/-- A mark on a key; a deep mark also covers every key below it. -/
structure Flag where
  key : TomlKey
  mark : Mark
  deep : Bool

/-- The marks of a document. -/
abbrev Flags := List Flag

namespace Flags

/-- Whether a key carries a mark, itself or through a deep mark on a key above it. -/
def has (fs : Flags) (key : TomlKey) (m : Mark) : Bool :=
  !key.isEmpty && fs.any fun f =>
    f.mark == m && (f.key == key || (f.deep && f.key.length < key.length && f.key.isPrefixOf key))

/-- Mark a key. -/
def set (fs : Flags) (key : TomlKey) (m : Mark) (deep : Bool) : Flags := fs ++ [⟨key, m, deep⟩]

/-- Drop every mark on a key and the keys below it. -/
def clear (fs : Flags) (key : TomlKey) : Flags := fs.filter fun f => !key.isPrefixOf f.key

end Flags

/-- The way a key is written in messages: a parenthesized, comma-separated list of quoted
names, with a trailing comma after a single one. -/
def keyText (key : TomlKey) : String :=
  "(" ++ ", ".intercalate (key.map Text.quote) ++ (if key.length == 1 then "," else "") ++ ")"

/-! ## Keys -/

/-- The message for a key part that cannot start here. -/
def badKeyStart : String := "Invalid initial character for a key part"

/-- Read one part of a key: bare, literal or basic. -/
def keyPart (cs : List Char) : Step String :=
  match cs with
  | c :: r =>
    if isBareKeyChar c then
      let (name, rest) := cs.span isBareKeyChar
      .ok (String.ofList name, rest)
    else if c == '\'' then literalLine r
    else if c == '"' then basicBody false [] r
    else fail badKeyStart cs
  | [] => fail badKeyStart []

/-- Read the dotted parts of a key after its first, with the blanks around the dots. -/
def keyRest (fuel : Nat) (acc : TomlKey) (cs : List Char) : Step TomlKey :=
  match fuel, cs with
  | fuel + 1, '.' :: r =>
    match keyPart (skipSpaces r) with
    | .ok (part, rest) => keyRest fuel (acc ++ [part]) (skipSpaces rest)
    | .error e => .error e
  | _, _ => .ok (acc, cs)

/-- Read a key: its parts joined by dots, and the blanks after it. -/
def key (cs : List Char) : Step TomlKey :=
  match keyPart cs with
  | .ok (part, rest) => keyRest cs.length [part] (skipSpaces rest)
  | .error e => .error e

/-! ## Values -/

/-- A value that holds no other: a date or date-time, a time of day, a number, or an infinity
or not-a-number. -/
def scalar (cs : List Char) : Step TomlValue :=
  match dateAndTime cs with
  | some ((d, moment), rest) =>
    if !d.valid then fail "Invalid date or datetime" cs
    else match moment with
      | some (t, o) => .ok (.dateTime d t o, rest)
      | none => .ok (.date d, rest)
  | none =>
    match timeOfDay cs with
    | some (t, rest) => .ok (.time t, rest)
    | none =>
      match numberText cs with
      | some n =>
        .ok (if n.isFloat then .float (floatValue n.text) else .int (integerValue n.text), n.rest)
      | none =>
        match cs with
        | 'i' :: 'n' :: 'f' :: r => .ok (.float (.infinite false), r)
        | 'n' :: 'a' :: 'n' :: r => .ok (.float .nan, r)
        | s :: 'i' :: 'n' :: 'f' :: r =>
          if s == '+' || s == '-' then .ok (.float (.infinite (s == '-')), r)
          else fail "Invalid value" cs
        | s :: 'n' :: 'a' :: 'n' :: r =>
          if s == '+' || s == '-' then .ok (.float .nan, r) else fail "Invalid value" cs
        | _ => fail "Invalid value" cs

/-- The failure of a value nested past the room for it. -/
def tooDeep {α : Type} (rest : List Char) : Except ReadError α :=
  .error ⟨"maximum recursion depth exceeded", rest.length, true⟩

mutual

/-- Read a value with `room` for nesting: a value inside an array takes two units of it, one
inside an inline table three. `fuel` bounds the depth of nesting and the number of items read;
reading a document never runs out of it. -/
def value : Nat → Nat → List Char → Step TomlValue
  | 0, _, cs => fail "Invalid value" cs
  | fuel + 1, room, cs =>
    match cs with
    | '"' :: '"' :: '"' :: r =>
      (blockString false r).map fun (s, rest) => (.str s, rest)
    | '"' :: r => (basicBody false [] r).map fun (s, rest) => (.str s, rest)
    | '\'' :: '\'' :: '\'' :: r =>
      (blockString true r).map fun (s, rest) => (.str s, rest)
    | '\'' :: r => (literalLine r).map fun (s, rest) => (.str s, rest)
    | 't' :: 'r' :: 'u' :: 'e' :: r => .ok (.bool true, r)
    | 'f' :: 'a' :: 'l' :: 's' :: 'e' :: r => .ok (.bool false, r)
    | '[' :: r =>
      if room < 2 then tooDeep cs
      else match skipArraySpace r with
        | .ok (']' :: rest) => .ok (.array [], rest)
        | .ok rest => arrayItems fuel (room - 2) [] rest
        | .error e => .error e
    | '{' :: r =>
      if room < 3 then tooDeep cs
      else match skipSpaces r with
        | '}' :: rest => .ok (.table [], rest)
        | rest => inlineItems fuel (room - 3) [] [] rest
    | _ => scalar cs

/-- Read the items of an array from its first item on, up to and past its closing bracket. -/
def arrayItems : Nat → Nat → List TomlValue → List Char → Step TomlValue
  | 0, _, _, cs => fail "Unclosed array" cs
  | fuel + 1, room, acc, cs =>
    match value fuel room cs with
    | .error e => .error e
    | .ok (v, rest) =>
      match skipArraySpace rest with
      | .error e => .error e
      | .ok (']' :: r) => .ok (.array (acc ++ [v]), r)
      | .ok (',' :: r) =>
        match skipArraySpace r with
        | .error e => .error e
        | .ok (']' :: r') => .ok (.array (acc ++ [v]), r')
        | .ok r' => arrayItems fuel room (acc ++ [v]) r'
      | .ok r => fail "Unclosed array" r

/-- Read the entries of an inline table from its first entry on, up to and past its closing
brace. The table's own marks freeze the arrays and tables given in it. -/
def inlineItems : Nat → Nat → TomlTable → Flags → List Char → Step TomlValue
  | 0, _, _, _, cs => fail "Unclosed inline table" cs
  | fuel + 1, room, t, flags, cs =>
    match pair fuel room cs with
    | .error e => .error e
    | .ok ((k, v), rest) =>
      if flags.has k .frozen then fail s!"Cannot mutate immutable namespace {keyText k}" rest
      else
        let stem := k.getLast?.getD ""
        let added := t.modifyNest false (⟨"Cannot overwrite a value", rest.length, false⟩ : ReadError)
          (fun nest =>
            if nest.has stem then fail s!"Duplicate inline table key {Text.quote stem}" rest
            else .ok (nest.put stem v)) k.dropLast
        match added with
        | .error e => .error e
        | .ok t =>
          match skipSpaces rest with
          | '}' :: r => .ok (.table t, r)
          | ',' :: r =>
            let flags := if v.isContainer then flags.set k .frozen true else flags
            inlineItems fuel room t flags (skipSpaces r)
          | r => fail "Unclosed inline table" r

/-- Read a key/value pair. -/
def pair : Nat → Nat → List Char → Step (TomlKey × TomlValue)
  | 0, _, cs => fail badKeyStart cs
  | fuel + 1, room, cs =>
    match key cs with
    | .error e => .error e
    | .ok (k, '=' :: r) =>
      match value fuel room (skipSpaces r) with
      | .ok (v, rest) => .ok ((k, v), rest)
      | .error e => .error e
    | .ok (_, r) => fail "Expected '=' after a key in a key/value pair" r

end

/-! ## Statements -/

/-- A document being read: its tables so far, its marks, and the dotted parents to be marked
declared once the next header is read. -/
structure Doc where
  data : TomlTable := []
  flags : Flags := []
  pending : List TomlKey := []

namespace Doc

/-- Mark the pending dotted parents declared. -/
def settle (d : Doc) : Doc :=
  { d with flags := d.pending.foldl (fun fs k => fs.set k .declared false) d.flags, pending := [] }

/-- Read a key/value statement under the current header. -/
def pairRule (d : Doc) (header : TomlKey) (fuel room : Nat) (cs : List Char) : Step Doc :=
  match pair fuel room cs with
  | .error e => .error e
  | .ok ((k, v), rest) =>
    let parents := (List.range (k.length - 1)).map fun i => header ++ k.take (i + 1)
    match parents.find? (d.flags.has · .declared) with
    | some p => fail s!"Cannot redefine namespace {keyText p}" rest
    | none =>
      let d := { d with pending := d.pending ++ parents }
      let parent := header ++ k.dropLast
      if d.flags.has parent .frozen then
        fail s!"Cannot mutate immutable namespace {keyText parent}" rest
      else
        let stem := k.getLast?.getD ""
        let overwrite : ReadError := ⟨"Cannot overwrite a value", rest.length, false⟩
        match d.data.modifyNest true overwrite (fun nest =>
            if nest.has stem then .error overwrite else .ok (nest.put stem v)) parent with
        | .error e => .error e
        | .ok data =>
          let flags := if v.isContainer then d.flags.set (header ++ k) .frozen true else d.flags
          .ok ({ d with data, flags }, rest)

/-- Read a table header after its opening bracket; the header is the new current key. -/
def tableRule (d : Doc) (cs : List Char) : Step (Doc × TomlKey) :=
  match key (skipSpaces cs) with
  | .error e => .error e
  | .ok (k, rest) =>
    if d.flags.has k .declared || d.flags.has k .frozen then
      fail s!"Cannot declare {keyText k} twice" rest
    else
      let flags := d.flags.set k .declared false
      match d.data.modifyNest true (⟨"Cannot overwrite a value", rest.length, false⟩ : ReadError)
          .ok k with
      | .error e => .error e
      | .ok data =>
        match rest with
        | ']' :: r => .ok (({ d with data, flags }, k), r)
        | _ => fail "Expected ']' at the end of a table declaration" rest

/-- Read an array-of-tables header after its opening brackets; the new entry's key is the new
current key. -/
def arrayTableRule (d : Doc) (cs : List Char) : Step (Doc × TomlKey) :=
  match key (skipSpaces cs) with
  | .error e => .error e
  | .ok (k, rest) =>
    if d.flags.has k .frozen then fail s!"Cannot mutate immutable namespace {keyText k}" rest
    else
      let flags := (d.flags.clear k).set k .declared false
      match d.data.appendTable (⟨"Cannot overwrite a value", rest.length, false⟩ : ReadError) k with
      | .error e => .error e
      | .ok data =>
        match rest with
        | ']' :: ']' :: r => .ok (({ d with data, flags }, k), r)
        | _ => fail "Expected ']]' at the end of an array declaration" rest

/-- Read one statement, its trailing blanks and comment: the document and current key after
it, and the rest from the end of its line on. -/
def statement (d : Doc) (header : TomlKey) (fuel room : Nat) (cs : List Char) :
    Step (Doc × TomlKey) :=
  let body : Step (Doc × TomlKey) :=
    match cs with
    | c :: r =>
      if isBareKeyChar c || c == '"' || c == '\'' then
        (d.pairRule header fuel room cs).map fun (d, rest) => ((d, header), rest)
      else if c == '[' then
        match r with
        | '[' :: r' => d.settle.arrayTableRule r'
        | _ => d.settle.tableRule r
      else if c == '#' then .ok ((d, header), cs)
      else fail "Invalid statement" cs
    | [] => .ok ((d, header), [])
  match body with
  | .error e => .error e
  | .ok (dh, rest) =>
    match skipComment (skipSpaces rest) with
    | .ok r => .ok (dh, r)
    | .error e => .error e

/-- Read statements line by line to the end of the document. -/
def statements (room fuel : Nat) (d : Doc) (header : TomlKey) (cs : List Char) :
    Except ReadError TomlTable :=
  match fuel, skipSpaces cs with
  | _, [] => .ok d.data
  | 0, rest => fail "Invalid statement" rest
  | fuel + 1, '\n' :: r => statements room fuel d header r
  | fuel + 1, rest =>
    match d.statement header (2 * cs.length + 2) room rest with
    | .error e => .error e
    | .ok ((d, header), r) =>
      match r with
      | [] => .ok d.data
      | '\n' :: r' => statements room fuel d header r'
      | _ => fail "Expected newline or end of document after a statement" r

end Doc

/-- Where a position lies in a text: line and column, or the end of the document. -/
def place (src : List Char) (pos : Nat) : String :=
  if src.length ≤ pos then "end of document"
  else
    let before := src.take pos
    let line := before.count '\n' + 1
    let column := (before.reverse.takeWhile (· != '\n')).length + 1
    s!"line {line}, column {column}"

/-- Why a document could not be read: it is not TOML, the message saying why and where, or
its values nest deeper than the room given. -/
inductive Refusal where
  | malformed (message : String)
  | tooDeep
  deriving DecidableEq, Repr

/-- Read a TOML document with `room` for the nesting of its values (see `value`): its root
table, or why it was refused. Line breaks written as carriage return and line feed count as
line feeds. -/
def read (room : Nat) (text : String) : Except Refusal TomlTable :=
  let src := Text.replaceAll ['\r', '\n'] ['\n'] text.toList
  match Doc.statements room (src.length + 1) {} [] src with
  | .ok t => .ok t
  | .error e =>
    if e.tooDeep then .error .tooDeep
    else .error (.malformed s!"{e.reason} (at {place src (src.length - e.left)})")

end Toml
end UiTags
