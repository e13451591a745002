import UiTags.Template.Datum
import UiTags.Text.Methods

/-!
# Pretty printing values

The `pprint` filter writes a value as it reads back, dictionaries with their keys sorted, and
breaks what does not fit in 80 columns over several lines.

A value whose one-line text fits in the room left (the width less the current indentation
and the characters that must still follow on its line) is written on one line. Otherwise a
dictionary puts each `key: value` pair on a line of its own, a list or tuple each item, with
the items indented one column past the opening bracket, and a text is written as several
quoted pieces, one per line break in it and then cut between words, in brackets when it
stands alone. Other values are written on one line whatever their length.

Keys of kinds that do not order among themselves are sorted by the names of their classes.

Pretty printing runs at a depth of calls (see `Depth`): the one-line text of a value is two
calls deeper for each value inside another, and each value laid out over several lines lays out
its items three calls deeper, each measuring its own one-line text three calls below. A value
nested deeply enough fails as too deep, about three times sooner than plain printing.
-/

namespace UiTags
namespace Template
namespace Datum

/-- The width pretty printing fills. -/
def prettyWidth : Nat := 80

/-- How deep pretty printing goes into nested values. -/
def prettyDepth : Nat := 1000

/-- The text of a value's class, which orders keys that do not order among themselves. -/
def classText (v : Datum) : String :=
  match v with
  | safe _ => "<class 'markupsafe.Markup'>"
  | v => "<class " ++ Text.quote v.typeName ++ ">"

/-- Whether one key sorts before another: by value when they order, else by class. -/
def keyBefore (a b : Datum) : Bool :=
  match order "<" a b with
  | .ok o => holds .lt o
  | .error _ => classText a < classText b

/-- Dictionary pairs sorted by key, equal keys keeping their order. -/
def sortedPairs (pairs : List (Datum × Datum)) : List (Datum × Datum) :=
  pairs.mergeSort fun p q => !(keyBefore q.1 p.1)

/-- Fail when a step reaching `d` calls goes deeper than the limit. -/
def prettyReach (d : Nat) : Except Error Unit :=
  if Depth.callLimit < d then .error .tooDeep else .ok ()

/-- The one-line text of a value, `calls` calls deep, dictionaries with their keys sorted; the
values inside a nonempty container are two calls deeper, and the text of another value one. -/
def prettyRepr : Nat → Nat → Datum → Except Error String
  | 0, _, v => reprText v
  | fuel + 1, calls, v => do
    prettyReach calls
    match v.bare with
    | dict [] => .ok "\x7b\x7d"
    | dict pairs => do
      let parts ← (sortedPairs pairs).mapM fun (k, x) => do
        return (← prettyRepr fuel (calls + 2) k) ++ ": " ++ (← prettyRepr fuel (calls + 2) x)
      return "\x7b" ++ ", ".intercalate parts ++ "\x7d"
    | list [] => .ok "[]"
    | list items => do
      return "[" ++ ", ".intercalate (← items.mapM (prettyRepr fuel (calls + 2))) ++ "]"
    | tuple [] => .ok "()"
    | tuple [x] => do return "(" ++ (← prettyRepr fuel (calls + 2) x) ++ ",)"
    | tuple items => do
      return "(" ++ ", ".intercalate (← items.mapM (prettyRepr fuel (calls + 2))) ++ ")"
    | v => do
      prettyReach (calls + 1)
      reprText v

/-- Runs of characters that are not blank, each with the blanks after it. -/
def wordRuns (cs : List Char) : List (List Char) :=
  let rec go : Nat → List Char → List (List Char)
    | 0, _ => []
    | _, [] => []
    | fuel + 1, cs =>
      let word := cs.takeWhile (fun c => !Text.isBlank c)
      let rest := cs.drop word.length
      let gap := rest.takeWhile Text.isBlank
      (word ++ gap) :: go fuel (rest.drop gap.length)
  go cs.length cs

/-- The quoted pieces of one line of a long text: as much of the line per piece as fits in
`room` (the last piece in `lastRoom`), cut between words. -/
def linePieces (room lastRoom : Int) (lastLine : Bool) (line : List Char) : List String :=
  let runs := wordRuns line
  let n := runs.length
  let step (acc : List String × List Char × Nat) (run : List Char) :
      List String × List Char × Nat :=
    let (pieces, current, j) := acc
    let limit := if j + 1 == n && lastLine then lastRoom else room
    let candidate := current ++ run
    if limit < (Text.quote (String.ofList candidate)).length then
      let pieces := if current.isEmpty then pieces
        else pieces ++ [Text.quote (String.ofList current)]
      (pieces, run, j + 1)
    else (pieces, candidate, j + 1)
  let (pieces, current, _) := runs.foldl step ([], [], 0)
  if current.isEmpty then pieces else pieces ++ [Text.quote (String.ofList current)]

/-- A long text as quoted pieces, one or more per line of it, placed at `indent` with
`allowance` characters still to follow; alone (`level` one) it is put in brackets. -/
def prettyText (s : String) (indent allowance level : Nat) : String :=
  if s.isEmpty then Text.quote s
  else
    let lines := Text.splitLines true s.toList
    let (indent, allowance) := if level == 1 then (indent + 1, allowance + 1) else (indent, allowance)
    let room : Int := (prettyWidth : Int) - indent
    let count := lines.length
    let pieces := (lines.zipIdx.map fun (line, i) =>
      let rep := Text.quote (String.ofList line)
      let last := i + 1 == count
      let limit := if last then room - allowance else room
      if (rep.length : Int) ≤ limit then [rep]
      else linePieces room (room - allowance) last line).flatten
    match pieces with
    | [_] => Text.quote (String.ofList (lines.getLastD []))
    | _ =>
      let body := ("\n" ++ String.ofList (List.replicate indent ' ')).intercalate pieces
      if level == 1 then "(" ++ body ++ ")" else body

/-- A value laid out at `indent` with `allowance` characters still to follow on its last
line, at nesting `level`, `calls` calls deep. -/
def prettyLayout : Nat → Datum → Nat → Nat → Nat → Nat → Except Error String
  | 0, v, _, _, _, calls => prettyRepr prettyDepth (calls + 3) v
  | fuel + 1, v, indent, allowance, level, calls => do
    let rep ← prettyRepr prettyDepth (calls + 3) v
    if (rep.length : Int) ≤ (prettyWidth : Int) - indent - allowance then return rep
    let items (xs : List Datum) (allowance : Nat) : Except Error String := do
      let inner := indent + 1
      let count := xs.length
      let parts ← xs.zipIdx.mapM fun (x, i) =>
        prettyLayout fuel x inner (if i + 1 == count then allowance else 1) (level + 1) (calls + 3)
      return (",\n" ++ String.ofList (List.replicate inner ' ')).intercalate parts
    match v.bare with
    | dict pairs => do
      let inner := indent + 1
      let sorted := sortedPairs pairs
      let count := sorted.length
      let parts ← sorted.zipIdx.mapM fun ((k, x), i) => do
        let key ← prettyRepr prettyDepth (calls + 5) k
        let value ← prettyLayout fuel x (inner + key.length + 2)
          (if i + 1 == count then allowance + 1 else 1) (level + 1) (calls + 3)
        return key ++ ": " ++ value
      return "\x7b" ++ (",\n" ++ String.ofList (List.replicate inner ' ')).intercalate parts ++ "\x7d"
    | list xs => do return "[" ++ (← items xs (allowance + 1)) ++ "]"
    | tuple xs =>
      let close := if xs.length == 1 then ",)" else ")"
      return "(" ++ (← items xs (allowance + close.length)) ++ close
    | str s => return prettyText s indent allowance (level + 1)
    | _ => return rep

/-- A value pretty printed by the filter of a top-level tag's template, which lays it out five
calls below the template's statements. -/
def pretty (v : Datum) : Except Error String :=
  prettyLayout prettyDepth v 0 0 0 (Depth.statements + 5)

end Datum
end Template
end UiTags
