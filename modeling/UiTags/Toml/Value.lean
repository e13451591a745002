import UiTags.Value
import UiTags.Text.Basic

/-!
# TOML values

The values a TOML document holds: texts, integers, floats, truth values, dates, times of day,
date-times (with or without an offset from UTC), arrays and tables. A table keeps its keys in
the order they were first set.

Tables nest. Reaching the table under a dotted key creates the tables missing on the way; a
step that lands on an array of tables goes into its last table when arrays may be entered,
and a step that lands on any other value fails, since no table can be placed behind it.

Dates and times are written as `YYYY-MM-DD`, `HH:MM:SS` with six fractional digits when there
is a fraction, and date-times as the date, a space and the time, followed by the offset as
`+HH:MM` or `-HH:MM`.
-/

namespace UiTags

/-- A calendar date. -/
structure Date where
  year : Nat
  month : Nat
  day : Nat
  deriving DecidableEq, Repr

/-- Whether a year is a leap year. -/
def Date.isLeap (y : Nat) : Bool := y % 4 == 0 && (y % 100 != 0 || y % 400 == 0)

/-- The number of days in a month of a year. -/
def Date.monthDays (y m : Nat) : Nat :=
  if m == 2 then (if Date.isLeap y then 29 else 28)
  else if m == 4 || m == 6 || m == 9 || m == 11 then 30
  else 31

/-- Whether a date exists: a year from 1 on, and a day within its month. -/
def Date.valid (d : Date) : Bool := 1 ≤ d.year && d.day ≤ Date.monthDays d.year d.month

/-- A time of day to the microsecond. -/
structure Time where
  hour : Nat
  minute : Nat
  second : Nat
  micro : Nat
  deriving DecidableEq, Repr

/-- A value of a TOML document. -/
inductive TomlValue where
  | str (s : String)
  | int (n : Int)
  | float (x : Binary64)
  | bool (b : Bool)
  | date (d : Date)
  | time (t : Time)
  /-- A date-time; the offset from UTC in minutes, or none for a local date-time. -/
  | dateTime (d : Date) (t : Time) (offset : Option Int)
  | array (items : List TomlValue)
  | table (fields : List (String × TomlValue))
  deriving Inhabited

/-- A table of a TOML document. -/
abbrev TomlTable := List (String × TomlValue)

/-- The key of a nested table: its names from the document's root. -/
abbrev TomlKey := List String

namespace TomlValue

/-- Digits of a number, padded with zeros on the left to a width. -/
def padded (width n : Nat) : String :=
  let ds := Nat.toDigits 10 n
  String.ofList (List.replicate (width - ds.length) '0' ++ ds)

/-- The text of a date. -/
def dateText (d : Date) : String :=
  s!"{padded 4 d.year}-{padded 2 d.month}-{padded 2 d.day}"

/-- The text of a time of day. -/
def timeText (t : Time) : String :=
  s!"{padded 2 t.hour}:{padded 2 t.minute}:{padded 2 t.second}" ++
    (if t.micro == 0 then "" else "." ++ padded 6 t.micro)

/-- The text of an offset from UTC in minutes. -/
def offsetText (m : Int) : String :=
  let sign := if m < 0 then "-" else "+"
  let a := m.natAbs
  s!"{sign}{padded 2 (a / 60)}:{padded 2 (a % 60)}"

/-- The name of the kind of a value, as errors about it name it. -/
def typeName : TomlValue → String
  | str _ => "str"
  | int _ => "int"
  | float _ => "float"
  | bool _ => "bool"
  | date _ => "datetime.date"
  | time _ => "datetime.time"
  | dateTime .. => "datetime.datetime"
  | array _ => "list"
  | table _ => "dict"

/-- Whether a value is an array or a table. -/
def isContainer : TomlValue → Bool
  | array _ | table _ => true
  | _ => false

mutual

/-- A TOML value as a dynamic value; dates and times become their texts. -/
def toValue : TomlValue → Value
  | str s => .str s
  | int n => .int n
  | float x => .float x
  | bool b => .bool b
  | date d => .str (dateText d)
  | time t => .str (timeText t)
  | dateTime d t o => .str (dateText d ++ " " ++ timeText t ++ ((o.map offsetText).getD ""))
  | array items => .list (listToValue items)
  | table fields => .obj (fieldsToValue fields)

/-- TOML values as dynamic values. -/
def listToValue : List TomlValue → List Value
  | [] => []
  | v :: vs => toValue v :: listToValue vs

/-- TOML table entries as dynamic entries. -/
def fieldsToValue : List (String × TomlValue) → List (String × Value)
  | [] => []
  | (k, v) :: rest => (k, toValue v) :: fieldsToValue rest

end

end TomlValue

namespace TomlTable

/-- Set a key: a present key keeps its place and takes the value, a new one goes last. -/
def put (t : TomlTable) (k : String) (v : TomlValue) : TomlTable :=
  if t.any (·.1 == k) then t.map fun p => if p.1 == k then (k, v) else p
  else t ++ [(k, v)]

/-- Whether a key is set. -/
def has (t : TomlTable) (k : String) : Bool := t.any (·.1 == k)

/-- Change the table under a key, creating the tables missing on the way; with `lists`, a step
onto an array of tables goes into its last table. A step that lands on a value that is no table
fails with `blocked`; the change itself may fail too. -/
def modifyNest {ε : Type} (lists : Bool) (blocked : ε) (g : TomlTable → Except ε TomlTable) :
    TomlTable → TomlKey → Except ε TomlTable
  | t, [] => g t
  | t, k :: ks =>
    match (t.lookup k).getD (.table []) with
    | .table inner => (modifyNest lists blocked g inner ks).map fun inner => t.put k (.table inner)
    | .array items =>
      if lists then
        match items.getLast? with
        | some (.table inner) =>
          (modifyNest lists blocked g inner ks).map fun inner =>
            t.put k (.array (items.dropLast ++ [.table inner]))
        | _ => .error blocked
      else .error blocked
    | _ => .error blocked

/-- Append an empty table to the array of tables under a key, starting the array when the key
is not set. Fails with `blocked` when the key holds something else, or its parent cannot be
reached. -/
def appendTable {ε : Type} (blocked : ε) (t : TomlTable) (key : TomlKey) : Except ε TomlTable :=
  match key.getLast? with
  | some stem =>
    t.modifyNest true blocked (fun nest =>
      match nest.lookup stem with
      | some (.array items) => .ok (nest.put stem (.array (items ++ [.table []])))
      | some _ => .error blocked
      | none => .ok (nest.put stem (.array [.table []]))) key.dropLast
  | none => .error blocked

end TomlTable

end UiTags
