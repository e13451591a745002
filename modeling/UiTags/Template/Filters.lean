import UiTags.Template.Tests
import UiTags.Template.Pretty
import UiTags.Text.Wrap
import UiTags.Text.Integer
import UiTags.Number.Read
import UiTags.Markup.Url
import UiTags.Script.Literal

/-!
# Filters and functions

The filters a template applies with `value|name(args)`, and the functions it may call.

Filters that change text keep a safe text safe (`upper`, `lower`, `capitalize`, `trim`,
`center`, `replace`, `indent`), escaping the plain texts they mix in; `title`, `wordwrap` and
`striptags` give plain text. Where printing escapes, `join`, `replace`, `xmlattr`, `urlize`
and `format` on a safe text escape the plain parts they put together.

`map`, `select`, `reject`, `selectattr`, `rejectattr`, `unique`, `batch`, `slice` and `items`
give a generator: its items are made one by one as it is read, so a failure on some item
shows only when reading reaches it, and reading its first item does not fail on later ones.
`reverse` gives a reversed iterator for what can be reversed.

Attribute arguments (`path='a.b'`) go through items and then attributes, part by part, a
part of digits naming a position. With `case_sensitive` false, texts are compared lower-cased.

`js_str` writes a value's text as a single-quoted script string (none as the empty string),
`js_bool` writes `true` or `false` by its truth, and `js_comment` flattens its text to one
line of words with every `</` broken.
-/

namespace UiTags
namespace Template
namespace Datum

/-! ## Ordering for sorting -/

/-- Insert into a sorted list after the items it is not less than. -/
def insertSorted {α : Type} (lt : α → α → Except Error Bool) (x : α) :
    List α → Except Error (List α)
  | [] => .ok [x]
  | y :: ys => do
    if ← lt x y then return x :: y :: ys
    else return y :: (← insertSorted lt x ys)

/-- A stable sort by a strict order that may fail. -/
def sortWith {α : Type} (lt : α → α → Except Error Bool) (xs : List α) :
    Except Error (List α) :=
  xs.foldlM (fun acc x => insertSorted lt x acc) []

/-- Whether one value is less than another. -/
def lessThan (a b : Datum) : Except Error Bool := do
  return holds .lt (← order "<" a b)

/-- A sort key that ignores case: texts lower-cased. -/
def caseKey (caseSensitive : Bool) (v : Datum) : Datum :=
  if caseSensitive then v
  else match v with
    | str s => str (lowerText s)
    | safe s => safe (lowerText s)
    | _ => v

/-! ## Arguments -/

/-- A bound parameter, or its default when it was not given. -/
def param (bound : List (Option Datum)) (i : Nat) (default : Datum) : Datum :=
  ((bound[i]?).bind id).getD default

/-- The parts of an attribute argument: a dotted text split at its dots, a part of digits
naming a position; any other value is one part, and none is no part. -/
def pathParts (path : Datum) : Except Error (List Datum) :=
  match path with
  | none => .ok []
  | str s | safe s =>
    (s.splitOn ".").mapM fun p =>
      if !p.isEmpty && p.toList.all Text.isDigitChar then
        match Text.readInt? p with
        | some n => .ok (int n)
        | Option.none => .error (.badValue s!"invalid literal for int() with base 10: {Text.quote p}")
      else .ok (str p)
  | v => .ok [v]

/-- The value an attribute path leads to from a value, through items and then attributes;
an undefined step gives `default` when one is given. -/
def pathValue (parts : List Datum) (default : Datum) (v : Datum) : Except Error Datum :=
  parts.foldlM (fun acc p => do
    let x ← getItem acc p
    return if x.isUndefined && !(default matches none) then default else x) v

/-- A getter of an attribute path, lower-casing texts when case matters not. -/
def pathGetter (path default : Datum) (caseSensitive : Bool) :
    Except Error (Datum → Except Error Datum) := do
  let parts ← pathParts path
  return fun v => do return caseKey caseSensitive (← pathValue parts default v)

/-! ## Generators -/

/-- The items a value gives when read one by one, and the failure that ends the reading early,
if any. -/
def stream (v : Datum) : Except Error (List Datum × Option Error) :=
  match v.bare with
  | gen _ xs fault => .ok (xs, fault)
  | v => do return (← items v, Option.none)

/-- A generator from a computation of its items: what it makes before failing, and the
failure. -/
def generator (produce : Except Error (List Datum × Option Error)) : Datum :=
  match produce with
  | .ok (xs, fault) => gen "generator" xs fault
  | .error e => gen "generator" [] (some e)

/-- Items made one by one from the items of a stream, each giving zero or more items, until
one fails. -/
def produceFrom (xs : List Datum) (fault : Option Error)
    (step : Datum → Except Error (List Datum)) : List Datum × Option Error :=
  let rec go : List Datum → List Datum → List Datum × Option Error
    | [], acc => (acc.reverse, fault)
    | x :: rest, acc =>
      match step x with
      | .ok ys => go rest (ys.reverse ++ acc)
      | .error e => (acc.reverse, some e)
  go xs []

/-! ## Text filters -/

/-- The text of a value for a text filter: a text as it is, anything else as its text. -/
def textOf (v : Datum) : Except Error Datum :=
  match v.bare with
  | str s => .ok (str s)
  | safe s => .ok (safe s)
  | v => do return str (← text v)

/-- A text filter's result from a text method. -/
def viaMethod (name : String) (v : Datum) (args : List Datum) : Except Error Datum := do
  callMethod (← textOf v) name args []

/-- Title case as filters make it: every run after a blank, a hyphen or an opening bracket
starts with its first character upper-cased, the rest lower-cased. -/
def filterTitle (s : String) : String :=
  let isBreak (c : Char) : Bool :=
    Text.isBlank c || c == '-' || c == '(' || c == '\x7b' || c == '[' || c == '<'
  let runs := blankRunsBy isBreak s.toList
  String.ofList (runs.flatMap fun r =>
    match r with
    | c :: rest => (Text.upper c.toString).toList ++ (lowerText (String.ofList rest)).toList
    | [] => [])
where
  /-- Runs of characters that all are or all are not breaks. -/
  blankRunsBy (p : Char → Bool) (cs : List Char) : List (List Char) :=
    let rec go : Nat → List Char → List (List Char)
      | 0, _ => []
      | _, [] => []
      | fuel + 1, c :: rest =>
        let same := (c :: rest).takeWhile fun d => p d == p c
        same :: go fuel ((c :: rest).drop same.length)
    go cs.length cs

/-- The number of words of a text, a word being a run of word characters. -/
def wordCount (s : String) : Nat :=
  ((s.toList.map fun c => if Text.isWordChar c then c else ' ').splitOn ' ').filter (· ≠ []) |>.length

/-- The `indent` filter. -/
def indentFilter (v : Datum) (width first blank : Datum) : Except Error Datum := do
  let s ← match v with
    | str s | safe s => pure s
    | undefined hint => throw (undefinedError hint)
    | v => throw (.mismatch s!"unsupported operand type(s) for +=: {Text.quote v.typeName} and 'str'")
  let indention ← match width with
    | str w | safe w => pure w
    | w => do
      let n ← indexArg w
      pure (String.ofList (List.replicate n.toNat ' '))
  let first ← truthy first
  let blank ← truthy blank
  let lines := (Text.splitLines false (s ++ "\n").toList).map String.ofList
  let body :=
    if blank then ("\n" ++ indention).intercalate lines
    else match lines with
      | [] => ""
      | l :: more =>
        if more.isEmpty then l
        else l ++ "\n" ++ "\n".intercalate (more.map fun x => if x.isEmpty then x else indention ++ x)
  return sameKind v ((if first then indention else "") ++ body)

/-- The `truncate` filter: a text longer than `length` plus `leeway` (5 when none is given)
is cut to `length` with `end` included, at the last space unless `killwords`. The length
and leeway are compared as numbers, so floats pass until the text has to be cut. -/
def truncateFilter (v : Datum) (length killwords ending leeway : Datum) :
    Except Error Datum := do
  let lee := if leeway matches none then int 5 else leeway
  let endLen : Int := ← size ending
  unless holds .ge (← order ">=" length (int endLen)) do
    throw (.raised "AssertionError" s!"expected length >= {endLen}, got {← text length}")
  unless holds .ge (← order ">=" lee (int 0)) do
    throw (.raised "AssertionError" s!"expected leeway >= 0, got {← text lee}")
  let n ← size v
  if holds .le (← order "<=" (int n) (← arith .add length lee)) then return v
  let stop ← match ← arith .sub length (int endLen) with
    | int k => pure k
    | _ => throw (.mismatch "slice indices must be integers or None or have an __index__ method")
  let cut ← slice v Option.none (some (int stop)) Option.none
  if ← truthy killwords then return ← arith .add cut ending
  let kept ← match cut with
    | str t | safe t =>
      let first := match Text.rsplitSep [' '] (some 1) t.toList with
        | first :: _ => first
        | [] => t.toList
      pure (sameKind cut (String.ofList first))
    | c => throw (.noAttribute s!"{Text.quote c.typeName} object has no attribute 'rsplit'")
  arith .add kept ending

/-- The `wordwrap` filter. -/
def wordwrapFilter (v : Datum) (width breakLong wrapstring breakHyphens : Datum) :
    Except Error Datum := do
  let sep ← match wrapstring with
    | none => pure (str "\n")
    | str _ | safe _ => pure wrapstring
    | undefined hint => throw (undefinedError hint)
    | x => throw (.noAttribute s!"{Text.quote x.typeName} object has no attribute 'join'")
  let s ← match v with
    | str s | safe s => pure s
    | undefined hint => throw (undefinedError hint)
    | v => throw (.noAttribute s!"{Text.quote v.typeName} object has no attribute 'splitlines'")
  let w ← indexArg width
  let rule : Text.WrapRule :=
    { width := w.toNat, breakLongWords := ← truthy breakLong, breakOnHyphens := ← truthy breakHyphens }
  let lines := Text.splitLines false s.toList
  if !lines.isEmpty && w ≤ 0 then throw (.badValue s!"invalid width {w} (must be > 0)")
  let wrapped := lines.map fun l => (Text.wrap rule l).map String.ofList
  match sep with
  | safe t =>
    return safe (t.intercalate (wrapped.map fun ws => t.intercalate (ws.map Html.escape)))
  | _ =>
    let t ← text sep
    return str (t.intercalate (wrapped.map fun ws => t.intercalate ws))

/-- The `replace` filter; `escapes` says whether printing escapes. -/
def replaceFilter (escapes : Bool) (v old new count : Datum) : Except Error Datum := do
  let countArgs := if count matches none then [] else [count]
  if !escapes then
    return ← callMethod (str (← text v)) "replace" ([str (← text old), str (← text new)] ++ countArgs) []
  let markupArg := old matches safe _ || (new matches safe _ && !(v matches safe _))
  let self ← if markupArg then
      match v with
      | safe _ => pure v
      | v => do return safe (Html.escape (← text v))
    else textOf v
  let plainOf (x : Datum) : Except Error Datum := do
    match x with
    | safe _ => return x
    | x => return str (← text x)
  callMethod self "replace" ([← plainOf old, ← plainOf new] ++ countArgs) []

/-- The `join` filter; `escapes` says whether printing escapes. -/
def joinFilter (escapes : Bool) (v sep path : Datum) : Except Error Datum := do
  let xs ← items v
  let xs ← match path with
    | none => pure xs
    | a => do
      let get ← pathGetter a none true
      xs.mapM get
  if !escapes then
    return str ((← text sep).intercalate (← xs.mapM text))
  match sep with
  | safe _ => callMethod sep "join" [list xs] []
  | _ =>
    if xs.any (· matches safe _) then
      let texts ← xs.mapM fun x => do
        match x with
        | safe _ => return x
        | x => return str (← text x)
      callMethod (safe (Html.escape (← text sep))) "join" [list texts] []
    else
      return str ((← text sep).intercalate (← xs.mapM text))

/-- The `xmlattr` filter; `escapes` says whether printing escapes. -/
def xmlattrFilter (escapes : Bool) (v autospace : Datum) : Except Error Datum := do
  let pairs ← match v with
    | dict ps => pure ps
    | undefined hint => throw (undefinedError hint)
    | v => throw (.noAttribute s!"{Text.quote v.typeName} object has no attribute 'items'")
  let escaped (x : Datum) : Except Error String := do
    match x with
    | safe t => return t
    | x => return Html.escape (← text x)
  let parts ← pairs.filterMapM fun (k, x) => do
    if x matches none || x.isUndefined then return Option.none
    let key ← match k with
      | str t | safe t => pure t
      | k => throw (.mismatch s!"expected string or bytes-like object, got {Text.quote k.typeName}")
    if key.toList.any (fun c => c == ' ' || c == '\t' || c == '\n' || c == '\r' ||
        c == '\x0b' || c == '\x0c' || c == '/' || c == '>' || c == '=') then
      throw (.badValue s!"Invalid character in attribute name: {Text.quote key}")
    return some ((← escaped k) ++ "=\"" ++ (← escaped x) ++ "\"")
  let body := " ".intercalate parts
  let body := if (← truthy autospace) && !body.isEmpty then " " ++ body else body
  return if escapes then safe body else str body

/-- The `urlencode` filter. -/
def urlencodeFilter (v : Datum) : Except Error Datum := do
  let quoteValue (forQuery : Bool) (x : Datum) : Except Error String := do
    let t ← text x
    let q := Html.quote (if forQuery then [] else ['/']) t
    return if forQuery then Text.replaceText "%20" "+" q else q
  match v with
  | str _ | safe _ => return str (← quoteValue false v)
  | dict ps =>
    let parts ← ps.mapM fun (k, x) => do
      return (← quoteValue true k) ++ "=" ++ (← quoteValue true x)
    return str ("&".intercalate parts)
  | v =>
    if iterable v then
      let parts ← (← items v).mapM fun pair => do
        match ← items pair with
        | [k, x] => return (← quoteValue true k) ++ "=" ++ (← quoteValue true x)
        | _ => throw (.badValue "too many values to unpack (expected 2)")
      return str ("&".intercalate parts)
    else return str (← quoteValue false v)

/-- The `urlize` filter; `escapes` says whether printing escapes. -/
def urlizeFilter (escapes : Bool) (v limit nofollow target rel schemes : Datum) :
    Except Error Datum := do
  let relText ← match rel with
    | str r | safe r => pure r
    | r =>
      if ← truthy r then
        throw (.noAttribute s!"{Text.quote r.typeName} object has no attribute 'split'")
      else pure ""
  let relParts := (Text.words relText) ++ (if ← truthy nofollow then ["nofollow"] else []) ++ ["noopener"]
  let relParts := relParts.eraseDups.mergeSort fun a b => !decide (b < a)
  let extra ← match schemes with
    | none => pure []
    | s => do (← items s).mapM text
  for s in extra do
    let cs := s.toList
    let body := cs.takeWhile fun c => Text.isWordChar c || c == '.' || c == '+' || c == '-'
    let after := cs.drop body.length
    let ok := 2 ≤ body.length && match after with
      | [':'] | [':', '/'] | [':', '/', '/'] => true
      | _ => false
    unless ok do throw (.filterArgument s!"{Text.quote s} is not a valid URI scheme prefix.")
  let lim ← match limit with
    | none => pure Option.none
    | l => do pure (some (← indexArg l))
  let targetText ← if ← truthy target then some <$> text target else pure Option.none
  let escaped ← match v with
    | safe t => pure t
    | v => do pure (Html.escape (← text v))
  let rule : Html.LinkRule :=
    { rel := if relParts.isEmpty then Option.none else some (" ".intercalate relParts),
      target := targetText, limit := lim, schemes := extra }
  let out := Html.urlize rule escaped
  return if escapes then safe out else str out

/-! ## Numbers -/

/-- The `int` filter. -/
def intFilter (v default base : Datum) : Except Error Datum := do
  let viaFloat (t : String) : Except Error Datum :=
    match Binary64.read? t with
    | some x =>
      match x with
      | .finite .. => .ok (((Binary64.ratio? x).map fun (n, d) => int (Int.tdiv n d)).getD default)
      | _ => .ok default
    | Option.none => .ok default
  match v with
  | int _ => return v
  | bool b => return int (if b then 1 else 0)
  | float x =>
    match x with
    | .nan => return default
    | .infinite _ => throw (.overflow "cannot convert float infinity to integer")
    | _ => return ((Binary64.ratio? x).map fun (n, d) => int (Int.tdiv n d)).getD default
  | str s | safe s =>
    let read := match base with
      | int b => if b < 0 then Option.none else Text.readIntIn? b.toNat s
      | bool b => Text.readIntIn? (if b then 1 else 0) s
      | _ => Option.none
    -- more digits than are converted, in a base that is no power of two, fail as no numeral
    let body := (Text.strip s).toList.dropWhile fun c => c == '-' || c == '+'
    let prefixed := base matches int 0 && match body with
      | '0' :: p :: _ => (Text.prefixBase? p).isSome
      | _ => false
    let binary := match base with
      | int b => b == 2 || b == 4 || b == 8 || b == 16 || b == 32
      | _ => false
    let digits := (body.filter fun c => (Text.digitIn? 36 c).isSome).length
    match read with
    | some n =>
      if !binary && !prefixed && Text.digitLimit < digits then viaFloat s else return int n
    | Option.none => viaFloat s
  | undefined hint => throw (undefinedError hint)
  | _ => return default

/-- The `float` filter. -/
def floatFilter (v default : Datum) : Except Error Datum := do
  match v with
  | float _ => return v
  | int n => return float (← Num.toFloat (.int n))
  | bool b => return float (Binary64.ofFraction (if b then 1 else 0) 1)
  | str s | safe s => return (Binary64.read? s).elim default float
  | undefined hint => throw (undefinedError hint)
  | _ => return default

/-- The float a value converts to, as `float()` takes it. -/
def toFloatValue (v : Datum) : Except Error Binary64 := do
  match v with
  | float x => return x
  | int n => Num.toFloat (.int n)
  | bool b => return Binary64.ofFraction (if b then 1 else 0) 1
  | str s | safe s =>
    match Binary64.read? s with
    | some x => return x
    | Option.none => throw (.badValue s!"could not convert string to float: {Text.quote s}")
  | undefined hint => throw (undefinedError hint)
  | v => throw (.mismatch s!"float() argument must be a string or a real number, not {Text.quote v.typeName}")

/-- The `filesizeformat` filter. -/
def filesizeFilter (v binary : Datum) : Except Error Datum := do
  let x ← toFloatValue v
  let bin ← truthy binary
  let base : Nat := if bin then 1024 else 1000
  let prefixes := if bin then ["KiB", "MiB", "GiB", "TiB", "PiB", "EiB", "ZiB", "YiB"]
    else ["kB", "MB", "GB", "TB", "PB", "EB", "ZB", "YB"]
  let bytes := Num.float x
  if Num.order bytes (.int 1) == some .eq then return str "1 Byte"
  if Num.order bytes (.int base) == some .lt then
    match Binary64.ratio? x with
    | some (n, d) => return str s!"{Int.tdiv n d} Bytes"
    | Option.none => throw (.overflow "cannot convert float infinity to integer")
  let scaled (unit : Nat) (pre : String) : Except Error Datum := do
    let top ← numArith .mul (.int base) bytes
    let u ← Num.toFloat (.int unit)
    match num? top with
    | some t =>
      match ← numArith .div t (.float u) with
      | float r => return str (Binary64.fixed r 1 ++ " " ++ pre)
      | _ => throw (.mismatch "unsupported operand")
    | Option.none => throw (.mismatch "unsupported operand")
  let units := prefixes.zipIdx.map fun (pre, i) => (Nat.pow base (i + 2), pre)
  match units.find? fun (unit, _) => Num.order bytes (.int unit) == some .lt with
  | some (unit, pre) => scaled unit pre
  | Option.none => scaled (Nat.pow base 9) "YB"

/-- The `round` filter. -/
def roundFilter (v places method : Datum) : Except Error Datum := do
  let how ← text method
  unless how == "common" || how == "ceil" || how == "floor" do
    throw (.filterArgument "method must be common, ceil or floor")
  if how == "common" && places matches none then
    match v with
    | int n => return int n
    | bool b => return int (if b then 1 else 0)
    | float x => match Binary64.ratio? x with
      | some (n, d) => return int (Binary64.divRoundEven n d)
      | Option.none => match x with
        | .nan => throw (.badValue "cannot convert float NaN to integer")
        | _ => throw (.overflow "cannot convert float infinity to integer")
    | _ => throw (.mismatch s!"type {v.typeName} doesn't define __round__ method")
  else if how == "common" then
    let p ← indexArg places
    match v with
    | int n => return int (Binary64.roundIntPlaces n p)
    | bool b => return int (Binary64.roundIntPlaces (if b then 1 else 0) p)
    | float x =>
      match Binary64.roundPlaces x p with
      | .infinite _ =>
        if x matches .finite .. then throw (.overflow "rounded value too large to represent")
        else return v
      | r => return float r
    | _ => throw (.mismatch s!"type {v.typeName} doesn't define __round__ method")
  else
    let unit ← numArith .pow (.int 10) (← (num? places).elim
      (throw (operandError "** or pow()" (int 10) places)) pure)
    let some x := num? v
      | throw (.mismatch "must be real number")
    let some u := num? unit
      | throw (.mismatch "must be real number")
    let scaled ← numArith .mul x u
    let whole ← match num? scaled with
      | some (.int n) => pure n
      | some (.float y) => match Binary64.ratio? y with
        | some (n, d) => pure (if how == "floor" then Int.fdiv n d else -Int.fdiv (-n) d)
        | Option.none => match y with
          | .nan => throw (.badValue "cannot convert float NaN to integer")
          | _ => throw (.overflow "cannot convert float infinity to integer")
      | Option.none => throw (.mismatch "must be real number")
    numArith .div (.int whole) u

/-- The `abs` filter. -/
def absFilter (v : Datum) : Except Error Datum :=
  match v with
  | int n => .ok (int n.natAbs)
  | bool b => .ok (int (if b then 1 else 0))
  | float (.finite _ m e) => .ok (float (.finite false m e))
  | float (.infinite _) => .ok (float (.infinite false))
  | float .nan => .ok (float .nan)
  | undefined hint => .error (undefinedError hint)
  | _ => .error (.mismatch s!"bad operand type for abs(): {Text.quote v.typeName}")

/-! ## JSON -/

/-- A dictionary key as JSON writes it. -/
def jsonKey (k : Datum) : Except Error String :=
  match k with
  | str s | safe s => .ok s
  | int n => intText n
  | float x => .ok (Json.numberChars x |> String.ofList)
  | bool b => .ok (if b then "true" else "false")
  | none => .ok "null"
  | k => .error (.mismatch s!"keys must be str, int, float, bool or None, not {k.typeName}")

/-- A value as JSON data, dictionaries with their keys sorted, within a room of lists and
dictionaries inside one another: each takes one call, and one with no room left fails as too
deep. -/
def toJson (room : Nat) (v : Datum) : Except Error Value :=
  match v.bare with
  | none => .ok .null
  | bool b => .ok (.bool b)
  | int n => do let _ ← intText n; return .int n
  | float x => .ok (.float x)
  | str s | safe s => .ok (.str s)
  | list xs | tuple xs =>
    match room with
    | 0 => .error .tooDeep
    | r + 1 => do return .list (← xs.mapM (toJson r))
  | dict ps =>
    match room with
    | 0 => .error .tooDeep
    | r + 1 => do
      let sorted ← sortWith (fun a b => lessThan a.1 b.1) ps
      return .obj (← sorted.mapM fun (k, x) => do return (← jsonKey k, ← toJson r x))
  | undefined hint => .error (undefinedError hint)
  | v => .error (.mismatch s!"Object of type {v.typeName} is not JSON serializable")

/-- JSON text laid out with one item per line, each level indented by `unit`. -/
def jsonIndented (unit : String) : Nat → Nat → Value → String
  | 0, _, v => Json.write v
  | fuel + 1, level, v =>
    let pad (n : Nat) : String := String.join (List.replicate n unit)
    match v with
    | .list [] => "[]"
    | .obj [] => "\x7b\x7d"
    | .list items =>
      "[\n" ++ (",\n").intercalate (items.map fun x => pad (level + 1) ++ jsonIndented unit fuel (level + 1) x) ++
        "\n" ++ pad level ++ "]"
    | .obj fields =>
      "\x7b\n" ++ (",\n").intercalate (fields.map fun (k, x) =>
        pad (level + 1) ++ String.ofList (Json.stringChars k) ++ ": " ++ jsonIndented unit fuel (level + 1) x) ++
        "\n" ++ pad level ++ "\x7d"
    | v => Json.write v

/-- JSON text safe inside markup: `<`, `>`, `&` and `'` written as escapes. -/
def jsonMarkup (s : String) : String :=
  String.join (s.toList.map fun c =>
    if c == '<' then "\\u003c" else if c == '>' then "\\u003e"
    else if c == '&' then "\\u0026" else if c == '\'' then "\\u0027" else c.toString)

/-- The `tojson` filter. -/
def tojsonFilter (v indent : Datum) : Except Error Datum := do
  let j ← toJson Depth.jsonRoom v
  let out ← match indent with
    | none => pure (Json.write j)
    | str u | safe u => pure (jsonIndented u 1000 0 j)
    | n => do
      let k ← indexArg n
      pure (jsonIndented (String.ofList (List.replicate k.toNat ' ')) 1000 0 j)
  return safe (jsonMarkup out)

/-! ## Sequences -/

/-- The `batch` filter. -/
def batchFilter (v count fill : Datum) : Datum :=
  generator do
    let (xs, fault) ← stream v
    let n ← indexArg count
    let rec cut : Nat → List Datum → List (List Datum)
      | 0, _ => []
      | _, [] => []
      | fuel + 1, ys => ys.take n.toNat :: cut fuel (ys.drop n.toNat)
    if n ≤ 0 then
      return (if xs.isEmpty then [] else (if n == 0 then [list []] else []) ++ [list xs], fault)
    let groups := cut xs.length xs
    let groups := match fault with
      | some _ => groups.filter fun (g : List Datum) => g.length == n.toNat
      | Option.none => groups
    let filled := groups.map fun (g : List Datum) =>
      if g.length < n.toNat && !(fill matches none) then g ++ List.replicate (n.toNat - g.length) fill
      else g
    return (filled.map list, fault)

/-- The `slice` filter. -/
def sliceFilter (v count fill : Datum) : Datum :=
  generator do
    let xs ← items v
    let n ← indexArg count
    if n == 0 then throw (.zeroDivision "integer division or modulo by zero")
    let len : Int := xs.length
    let per := Int.fdiv len n
    let extra := Int.fmod len n
    let slices := (List.range n.toNat).map fun (k : Nat) =>
      let k : Int := k
      let start := min k extra + k * per
      let stop := min (k + 1) extra + (k + 1) * per
      let part := (xs.drop start.toNat).take (stop - start).toNat
      if !(fill matches none) && extra ≤ k then list (part ++ [fill]) else list part
    return (slices, Option.none)

/-- The key of an item for `unique`, and whether an equal key was seen before. -/
def uniqueKey (get : Datum → Except Error Datum) (seen : List Datum) (x : Datum) :
    Except Error (Datum × Bool) := do
  let k ← get x
  if let some c := unhashable? k then throw (unhashableError c)
  return (k, ← seen.anyM fun s => equals s k)

/-- The `unique` filter. -/
def uniqueFilter (v caseSensitive path : Datum) : Datum :=
  generator do
    let (xs, fault) ← stream v
    let get ← pathGetter path none (← truthy caseSensitive)
    let rec go : List Datum → List Datum → List Datum → List Datum × Option Error
      | [], _, acc => (acc.reverse, fault)
      | x :: rest, seen, acc =>
        match uniqueKey get seen x with
        | .ok (k, false) => go rest (k :: seen) (x :: acc)
        | .ok (_, true) => go rest seen acc
        | .error e => (acc.reverse, some e)
    return go xs [] []

/-- The `groupby` filter. -/
def groupbyFilter (v path default caseSensitive : Datum) : Except Error Datum := do
  let cs ← truthy caseSensitive
  let key ← pathGetter path default cs
  let shown ← pathGetter path default true
  let xs ← items v
  let keyed ← xs.mapM fun x => do return (← key x, x)
  let sorted ← sortWith (fun a b => lessThan a.1 b.1) keyed
  let rec gather : List (Datum × Datum) → Option (Datum × List Datum) → List (Datum × List Datum) →
      Except Error (List (Datum × List Datum))
    | [], cur, acc => return (acc ++ cur.toList)
    | (k, x) :: rest, Option.none, acc => gather rest (some (k, [x])) acc
    | (k, x) :: rest, some (g, members), acc => do
      if ← equals k g then gather rest (some (g, members ++ [x])) acc
      else gather rest (some (k, [x])) (acc ++ [(g, members)])
  let groups ← gather sorted Option.none []
  let groups ← groups.mapM fun (g, members) => do
    if cs then return group g members
    else return group (← shown (members.headD none)) members
  return list groups

/-- The `sort` filter. -/
def sortFilter (v reverse caseSensitive path : Datum) : Except Error Datum := do
  let rev ← truthy reverse
  let cs ← truthy caseSensitive
  let xs ← items v
  let paths : List (List Datum) ← match path with
    | str s | safe s => (s.splitOn ",").mapM fun p => pathParts (str p)
    | a => do
      let parts ← pathParts a
      pure [parts]
  let keyed ← xs.mapM fun x => do
    return (list (← paths.mapM fun p => do return caseKey cs (← pathValue p none x)), x)
  let lt (a b : Datum × Datum) : Except Error Bool :=
    if rev then lessThan b.1 a.1 else lessThan a.1 b.1
  return list ((← sortWith lt keyed).map (·.2))

/-- The `dictsort` filter. -/
def dictsortFilter (v caseSensitive sortBy reverse : Datum) : Except Error Datum := do
  let pos ← match sortBy with
    | str "key" => pure 0
    | str "value" => pure 1
    | _ => throw (.filterArgument "You can only sort by either \"key\" or \"value\"")
  let pairs ← match v with
    | dict ps => pure ps
    | undefined hint => throw (undefinedError hint)
    | v => throw (.noAttribute s!"{Text.quote v.typeName} object has no attribute 'items'")
  let cs ← truthy caseSensitive
  let rev ← truthy reverse
  let key (p : Datum × Datum) : Datum := caseKey cs (if pos == 0 then p.1 else p.2)
  let lt (a b : Datum × Datum) : Except Error Bool :=
    if rev then lessThan (key b) (key a) else lessThan (key a) (key b)
  return list ((← sortWith lt pairs).map fun (k, x) => tuple [k, x])

/-- The `min` and `max` filters. -/
def extremeFilter (isMax : Bool) (v caseSensitive path : Datum) : Except Error Datum := do
  let xs ← items v
  match xs with
  | [] => return undefined "No aggregated item, sequence was empty."
  | x :: rest =>
    let get ← pathGetter path none (← truthy caseSensitive)
    let (best, _) ← rest.foldlM (fun (acc : Datum × Datum) y => do
      let ky ← get y
      let better ← if isMax then lessThan acc.2 ky else lessThan ky acc.2
      return if better then (y, ky) else acc) (x, ← get x)
    return best

/-- The `sum` filter. -/
def sumFilter (v path start : Datum) : Except Error Datum := do
  if start matches str _ || start matches safe _ then
    throw (.mismatch "sum() can't sum strings [use ''.join(seq) instead]")
  let xs ← items v
  let xs ← match path with
    | none => pure xs
    | a => do
      let get ← pathGetter a none true
      xs.mapM get
  xs.foldlM (fun acc x => arith .add acc x) start

/-- The `reverse` filter. -/
def reverseFilter (v : Datum) : Except Error Datum := do
  match v with
  | str s => return str (String.ofList s.toList.reverse)
  | safe s => return safe (String.ofList s.toList.reverse)
  | list xs => return gen "list_reverseiterator" xs.reverse Option.none
  | tuple xs => return gen "reversed" xs.reverse Option.none
  | dict ps => return gen "dict_reversekeyiterator" (ps.map (·.1)).reverse Option.none
  | range .. => return gen "range_iterator" (← items v).reverse Option.none
  | view kind xs =>
    let k := if kind == "dict_keys" then "dict_reversekeyiterator"
      else if kind == "dict_values" then "dict_reversevalueiterator" else "dict_reverseitemiterator"
    return gen k xs.reverse Option.none
  | undefined hint => throw (undefinedError hint)
  | v =>
    match items v with
    | .ok xs => return list xs.reverse
    | .error (.mismatch _) => throw (.filterArgument "argument must be iterable")
    | .error e => throw e

/-- The `last` filter. -/
def lastFilter (v : Datum) : Except Error Datum := do
  if let range a b st := v then
    let n := rangeLength a b st
    return if n == 0 then undefined "No last item, sequence was empty." else int (a + st * (n - 1 : Nat))
  let xs ← match v with
    | list _ | tuple _ | dict _ | str _ | safe _ | range .. | view .. => items v
    | undefined hint => throw (undefinedError hint)
    | v => throw (.mismatch s!"{Text.quote v.typeName} object is not reversible")
  match xs.getLast? with
  | some x => return x
  | Option.none => return undefined "No last item, sequence was empty."

/-- The `first` filter. -/
def firstFilter (v : Datum) : Except Error Datum := do
  if let range a b st := v then
    return if rangeLength a b st == 0 then undefined "No first item, sequence was empty." else int a
  let (xs, fault) ← stream v
  match xs, fault with
  | x :: _, _ => return x
  | [], some e => throw e
  | [], Option.none => return undefined "No first item, sequence was empty."

/-- The `items` filter. -/
def itemsFilter (v : Datum) : Datum :=
  match v with
  | undefined _ => gen "generator" [] Option.none
  | dict ps => gen "generator" (ps.map fun (k, x) => tuple [k, x]) Option.none
  | _ => gen "generator" [] (some (.mismatch "Can only get item pairs from a mapping."))

/-! ## Applying filters -/

/-- The parameters of each filter after the value, and how many are required. -/
def filterParams : String → Option (List String × Nat)
  | "abs" | "capitalize" | "count" | "e" | "escape" | "first" | "forceescape" | "items"
  | "last" | "length" | "list" | "lower" | "pprint" | "random" | "reverse" | "safe"
  | "string" | "striptags" | "title" | "upper" | "urlencode" | "wordcount"
  | "js_str" | "js_bool" | "js_comment" => some ([], 0)
  | "attr" => some (["name"], 1)
  | "batch" => some (["linecount", "fill_with"], 1)
  | "center" => some (["width"], 0)
  | "d" | "default" => some (["default_value", "boolean"], 0)
  | "dictsort" => some (["case_sensitive", "by", "reverse"], 0)
  | "filesizeformat" => some (["binary"], 0)
  | "float" => some (["default"], 0)
  | "groupby" => some (["attribute", "default", "case_sensitive"], 1)
  | "indent" => some (["width", "first", "blank"], 0)
  | "int" => some (["default", "base"], 0)
  | "join" => some (["d", "attribute"], 0)
  | "max" | "min" | "unique" => some (["case_sensitive", "attribute"], 0)
  | "replace" => some (["old", "new", "count"], 2)
  | "round" => some (["precision", "method"], 0)
  | "slice" => some (["slices", "fill_with"], 1)
  | "sort" => some (["reverse", "case_sensitive", "attribute"], 0)
  | "sum" => some (["attribute", "start"], 0)
  | "tojson" => some (["indent"], 0)
  | "trim" => some (["chars"], 0)
  | "truncate" => some (["length", "killwords", "end", "leeway"], 0)
  | "urlize" => some (["trim_url_limit", "nofollow", "target", "rel", "extra_schemes"], 0)
  | "wordwrap" => some (["width", "break_long_words", "wrapstring", "break_on_hyphens"], 0)
  | "xmlattr" => some (["autospace"], 0)
  | _ => Option.none

/-- A filter with fixed parameters applied to a value and its bound parameters. -/
def applyFixed (escapes : Bool) (name : String) (given : Datum) (p : List (Option Datum)) :
    Except Error Datum := do
  let v := given.bare
  let arg (i : Nat) (d : Datum) : Datum := param p i d
  match name with
  | "abs" => absFilter v
  | "attr" => do
    let n ← text (arg 0 none)
    return (← attrOnly v n).getD (missingAttr v n)
  | "batch" => return batchFilter v (arg 0 none) (arg 1 none)
  | "capitalize" => viaMethod "capitalize" v []
  | "center" => viaMethod "center" v [arg 0 (int 80)]
  | "count" | "length" => return int (← size v)
  | "d" | "default" =>
    let fallback := arg 0 (str "")
    if v.isUndefined then return fallback
    if (← truthy (arg 1 (bool false))) && !(← truthy v) then return fallback
    return given
  | "dictsort" => dictsortFilter v (arg 0 (bool false)) (arg 1 (str "key")) (arg 2 (bool false))
  | "e" | "escape" =>
    match v with
    | safe _ => return v
    | v => return safe (Html.escape (← text v))
  | "filesizeformat" => filesizeFilter v (arg 0 (bool false))
  | "first" => firstFilter v
  | "float" => floatFilter v (arg 0 (float (.finite false 0 Binary64.minExp)))
  | "forceescape" => return safe (Html.escape (← text v))
  | "groupby" => groupbyFilter v (arg 0 none) (arg 1 none) (arg 2 (bool false))
  | "indent" => indentFilter v (arg 0 (int 4)) (arg 1 (bool false)) (arg 2 (bool false))
  | "int" => intFilter v (arg 0 (int 0)) (arg 1 (int 10))
  | "items" => return itemsFilter v
  | "join" => joinFilter escapes v (arg 0 (str "")) (arg 1 none)
  | "last" => lastFilter v
  | "list" => return list (← items v)
  | "lower" => viaMethod "lower" v []
  | "max" => extremeFilter true v (arg 0 (bool false)) (arg 1 none)
  | "min" => extremeFilter false v (arg 0 (bool false)) (arg 1 none)
  | "pprint" => return str (← pretty v)
  | "random" =>
    match ← items v with
    | x :: _ => return x
    | [] => return undefined "No random item, sequence was empty."
  | "replace" => replaceFilter escapes v (arg 0 none) (arg 1 none) (arg 2 none)
  | "reverse" => reverseFilter v
  | "round" => roundFilter v (arg 0 (int 0)) (arg 1 (str "common"))
  | "safe" =>
    match v with
    | safe _ => return v
    | v => return safe (← text v)
  | "slice" => return sliceFilter v (arg 0 none) (arg 1 none)
  | "sort" => sortFilter v (arg 0 (bool false)) (arg 1 (bool false)) (arg 2 none)
  | "string" => textOf v
  | "striptags" => return str (Html.stripTags (← text v))
  | "sum" => sumFilter v (arg 0 none) (arg 1 (int 0))
  | "title" => return str (filterTitle (← text v))
  | "tojson" => tojsonFilter v (arg 0 none)
  | "trim" =>
    let chars := arg 0 none
    viaMethod "strip" v (if chars matches none then [] else [chars])
  | "truncate" => truncateFilter v (arg 0 (int 255)) (arg 1 (bool false)) (arg 2 (str "...")) (arg 3 none)
  | "unique" => return uniqueFilter v (arg 0 (bool false)) (arg 1 none)
  | "upper" => viaMethod "upper" v []
  | "urlencode" => urlencodeFilter v
  | "urlize" => urlizeFilter escapes v (arg 0 none) (arg 1 (bool false)) (arg 2 none) (arg 3 none) (arg 4 none)
  | "wordcount" => return int (wordCount (← text v))
  | "wordwrap" => wordwrapFilter v (arg 0 (int 79)) (arg 1 (bool true)) (arg 2 none) (arg 3 (bool true))
  | "xmlattr" => xmlattrFilter escapes v (arg 0 (bool true))
  | "js_str" =>
    match v with
    | none => return str "''"
    | v => return str ("'" ++ Script.escape (← text v) ++ "'")
  | "js_bool" => return str (if ← truthy v then "true" else "false")
  | "js_comment" =>
    let t ← if ← truthy v then text v else pure ""
    return str (Text.replaceText "</" "<\\/" (" ".intercalate (Text.words t)))
  | _ => throw (.runtime s!"No filter named {Text.quote name}.")

/-- A value with one of the language's filters applied; `escapes` says whether printing
escapes in the template. `fuel` bounds filters applied by other filters. -/
def applyFilterWith (escapes : Bool) : Nat → String → Datum → List Datum →
    List (String × Datum) → Except Error Datum
  | 0, _, _, _, _ => .error .tooDeep
  | fuel + 1, name, given, args, named =>
    let v := given.bare
    match name with
    | "format" => do
      if !args.isEmpty && !named.isEmpty then
        throw (.filterArgument "can't handle positional and keyword arguments at the same time")
      let markup := v matches safe _
      let pattern ← text v
      let given := if named.isEmpty then tuple args else dict (named.map fun (k, x) => (str k, x))
      let out ← percent markup pattern.toList given
      return if markup then safe out else str out
    | "map" => pure (generator do
      if !(← truthy v) then return ([], Option.none)
      let (xs, fault) ← stream v
      let step ← match args, named.lookup "attribute" with
        | [], some path => do
          let default := (named.lookup "default").getD none
          match named.find? fun (k, _) => k != "attribute" && k != "default" with
          | some (k, _) => throw (.filterArgument s!"Unexpected keyword argument {Text.quote k}")
          | Option.none => pure ()
          let parts ← pathParts path
          pure fun (x : Datum) => do return [← pathValue parts default x]
        | f :: rest, _ => do
          let fname ← text f
          unless filterNames.contains fname do
            throw (.runtime s!"No filter named {Text.quote fname}.")
          pure fun (x : Datum) => do return [← applyFilterWith escapes fuel fname x rest named]
        | [], Option.none => throw (.filterArgument "map requires a filter argument")
      return produceFrom xs fault step)
    | "select" | "reject" | "selectattr" | "rejectattr" => pure (generator do
      if !(← truthy v) then return ([], Option.none)
      let (xs, fault) ← stream v
      let byAttr := name == "selectattr" || name == "rejectattr"
      let keep := name == "select" || name == "selectattr"
      let (get, rest) ← if byAttr then
          match args with
          | a :: more => do
            let parts ← pathParts a
            pure ((fun (x : Datum) => pathValue parts none x), more)
          | [] => throw (.filterArgument "Missing parameter for attribute name")
        else pure ((fun (x : Datum) => (pure x : Except Error Datum)), args)
      let check ← match rest with
        | t :: more => do
          let tname ← text t
          unless testNames.contains tname do
            throw (.runtime s!"No test named {Text.quote tname}.")
          pure fun (y : Datum) => test tname y more named
        | [] => pure truthy
      return produceFrom xs fault fun x => do
        let ok ← check (← get x)
        return if ok == keep then [x] else [])
    | _ =>
      match filterParams name with
      | some (params, required) => do
        let p ← bindParams name params required args named
        applyFixed escapes name given p
      | Option.none => .error (.runtime s!"No filter named {Text.quote name}.")

/-- A value with one of the language's filters applied; `escapes` says whether printing
escapes in the template. -/
def applyFilter (escapes : Bool) (name : String) (v : Datum) (args : List Datum)
    (named : List (String × Datum)) : Except Error Datum :=
  applyFilterWith escapes 64 name v args named

/-! ## Functions -/

/-- The names the language itself defines. -/
def builtinNames : List String := ["range", "dict", "lipsum", "cycler", "joiner", "namespace"]

/-- The value a function of the language gives when called. -/
def callBuiltin (name : String) (args : List Datum) (named : List (String × Datum)) :
    Except Error Datum := do
  match name with
  | "range" =>
    unless named.isEmpty do throw (.mismatch "range() takes no keyword arguments")
    let ints ← args.mapM indexArg
    let (a, b, step) ← match ints with
      | [n] => pure (0, n, 1)
      | [a, b] => pure (a, b, 1)
      | [a, b, c] => pure (a, b, c)
      | [] => throw (.mismatch "range expected at least 1 argument, got 0")
      | _ => throw (.mismatch s!"range expected at most 3 arguments, got {ints.length}")
    if step == 0 then throw (.badValue "range() arg 3 must not be zero")
    return range a b step
  | "dict" =>
    let given ← match args.map bare with
      | [] => pure []
      | [dict ps] => pure ps
      | [a] => (← items a).mapM fun pair => do
        match ← items pair with
        | [k, x] => pure (k, x)
        | parts => throw (.badValue s!"dictionary update sequence element #0 has length {parts.length}; 2 is required")
      | _ => throw (.mismatch s!"dict expected at most 1 argument, got {args.length}")
    let all := given ++ named.map fun (k, x) => (str k, x)
    return dict (← all.foldlM (fun acc (k, x) => insert acc k x) [])
  | _ => throw (.mismatch s!"the function {name} is not supported")

end Datum
end Template
end UiTags
