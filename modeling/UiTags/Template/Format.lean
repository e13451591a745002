import UiTags.Template.Operators
import UiTags.Number.Notation
import UiTags.Text.Methods
import UiTags.Text.Integer
import UiTags.Number.Read

/-!
# Formatting values into text

Two ways a template builds text from a pattern and values.

*Percent formatting* (the `format` filter): every `%` in the pattern starts a conversion, with
an optional `(key)` taking the value from named arguments, flags (`-` left, `+` and space for
signs, `#` alternate form, `0` zero padding), a width and a precision (either may be `*`, taken
from the arguments), and a conversion letter: `s`, `r` and `a` for text, `d`, `i` and `u` for
integers, `o`, `x` and `X` for octal and hexadecimal, `e`, `f` and `g` (and their capitals) for
floats, `c` for a character, and `%` for itself.

*Field formatting* (the `format` method of texts): `{field!conversion:spec}` fields, with `{{`
and `}}` standing for braces. A field names a positional argument by number (or by leaving the
name out, counting up) or a named one, followed by `.attribute` and `[key]` parts; the spec,
which may itself hold fields, follows the format mini-language: fill and alignment, sign,
alternate form, zero padding, width, grouping with `,` or `_`, precision and a presentation
letter.

When the pattern is safe text, the text of every value put in is escaped (unless it is safe)
and the result is safe.
-/

namespace UiTags
namespace Template
namespace Datum

/-! ## Numbers -/

/-- The digits of a natural number in a base up to 16, upper-case letters when asked. -/
def baseDigits (base : Nat) (upper : Bool) (n : Nat) : List Char :=
  let ds := Nat.toDigits base n
  if upper then ds.map Char.toUpper else ds

/-- Digits grouped from the right every `size` digits with a separator. -/
def groupDigits (sep : Char) (size : Nat) (ds : List Char) : List Char :=
  -- `rest` holds the digits not yet grouped, last digit first
  let rec go : Nat → List Char → List Char → List Char
    | 0, acc, rest => rest.reverse ++ acc
    | fuel + 1, acc, rest =>
      if rest.length ≤ size then rest.reverse ++ acc
      else go fuel (sep :: (rest.take size).reverse ++ acc) (rest.drop size)
  go ds.length [] ds.reverse

/-- The float an argument converts to for a float conversion. -/
def floatArg (v : Datum) : Except Error Binary64 :=
  match v with
  | float x => .ok x
  | int n => Num.toFloat (.int n)
  | bool b => .ok (Binary64.ofFraction (if b then 1 else 0) 1)
  | undefined hint => .error (undefinedError hint)
  | v => .error (.mismatch s!"must be real number, not {v.typeName}")

/-- The integer part of a float, as `int()` takes it. -/
def floatToInt (x : Binary64) : Except Error Int :=
  match x with
  | .nan => .error (.badValue "cannot convert float NaN to integer")
  | .infinite _ => .error (.overflow "cannot convert float infinity to integer")
  | x => .ok ((Binary64.ratio? x).elim 0 fun (n, d) => Int.tdiv n d)

/-! ## Percent formatting -/

/-- A conversion of percent formatting: flags, width, precision and letter. -/
structure Conversion where
  left : Bool := false
  sign : Bool := false
  blank : Bool := false
  alternate : Bool := false
  zero : Bool := false
  width : Nat := 0
  precision : Option Nat := Option.none

/-- Text padded to the conversion's width: on the right when left-aligned, else on the left
with spaces, or with zeros after the sign and prefix when zero padding a number. -/
def padConversion (cv : Conversion) (numeric : Bool) (signPart body : List Char) : List Char :=
  let len := signPart.length + body.length
  if cv.width ≤ len then signPart ++ body
  else
    let fill := cv.width - len
    if cv.left then signPart ++ body ++ List.replicate fill ' '
    else if cv.zero && numeric then signPart ++ List.replicate fill '0' ++ body
    else List.replicate fill ' ' ++ signPart ++ body

/-- The sign part of a number for a conversion. -/
def signOf (cv : Conversion) (neg : Bool) : List Char :=
  if neg then ['-'] else if cv.sign then ['+'] else if cv.blank then [' '] else []

/-- The text of an escaped value, escaped where the pattern is safe unless it is safe itself. -/
def escapedText (markup : Bool) (v : Datum) (t : String) : String :=
  if markup && !(v matches safe _) then Html.escape t else t

/-- The name safe text gives the values it formats, which stand for them in failures. -/
def helperName : String := "_MarkupEscapeHelper"

/-- The text `int()` reads a value of the wrong text as, for its failure: the quoted form, cut
to 200 characters. -/
def literalText (v : Datum) : Except Error String := do
  return String.ofList ((← reprText v).toList.take 200)

/-- The integer `int()` makes of a value: integers and truth values as they are, floats cut
toward zero, texts read as decimal numerals. -/
def intOf (v : Datum) (letter : Char) : Except Error Int :=
  match v with
  | int n => .ok n
  | bool b => .ok (if b then 1 else 0)
  | float x => floatToInt x
  | undefined hint => .error (undefinedError hint)
  | str s | safe s =>
    match Text.readInt? s with
    | some n =>
      if Text.tooManyDigits n.natAbs then
        .error (.badValue s!"Exceeds the limit ({Text.digitLimit} digits) for integer string conversion: value has {(toString n.natAbs).length} digits; use sys.set_int_max_str_digits() to increase the limit")
      else .ok n
    | Option.none => do
      throw (.badValue s!"invalid literal for int() with base 10: {← literalText v}")
  | _ => .error (.mismatch s!"%{letter} format: a real number is required, not {helperName}")

/-- The float `float()` makes of a value: numbers converted, texts read. -/
def floatOf (v : Datum) : Except Error Binary64 :=
  match v with
  | str s | safe s =>
    match Binary64.read? s with
    | some x => .ok x
    | Option.none => do throw (.badValue s!"could not convert string to float: {← reprText v}")
  | float _ | int _ | bool _ | undefined _ => floatArg v
  | v => .error (.mismatch s!"float() argument must be a string or a real number, not {Text.quote v.typeName}")

/-- The digits of an integer in base ten, when it has at most `Text.digitLimit` of them. -/
def decimalChars (n : Nat) : Except Error (List Char) :=
  if Text.tooManyDigits n then .error intTextFailure
  else .ok (Binary64.digitChars n)

/-- One conversion applied to a value. When the pattern is safe text the value stands behind an
escaping wrapper: its text and quoted form are escaped, it converts to numbers only as `int()`
and `float()` convert it (texts are read), and it is neither an index nor a character. The
result is the sign and prefix part and the body, and whether the conversion is numeric. -/
def convertValue (wrapped : Bool) (cv : Conversion) (letter : Char) (v : Datum) :
    Except Error (List Char × List Char × Bool) := do
  let cut (cs : List Char) : List Char := match cv.precision with
    | some p => cs.take p
    | Option.none => cs
  match letter with
  | 's' =>
    let t := escapedText wrapped v (← text v)
    return ([], cut t.toList, false)
  | 'r' | 'a' =>
    let t ← reprText v
    let t := if wrapped then Html.escape t else t
    let t := if letter == 'a' then Text.asciiEscape t else t
    return ([], cut t.toList, false)
  | 'd' | 'i' | 'u' =>
    let n ← if wrapped then intOf v letter else match v with
      | int n => pure n
      | bool b => pure (if b then 1 else 0)
      | float x => floatToInt x
      | undefined hint => throw (undefinedError hint)
      | v => throw (.mismatch s!"%{letter} format: a real number is required, not {v.typeName}")
    let ds ← decimalChars n.natAbs
    return (signOf cv (n < 0), Binary64.padDigits (cv.precision.getD 0) ds, true)
  | 'o' | 'x' | 'X' =>
    let n ← if wrapped then
        throw (.mismatch s!"%{letter} format: an integer is required, not {helperName}")
      else match v with
        | int n => pure n
        | bool b => pure (if b then 1 else 0)
        | v => throw (.mismatch s!"%{letter} format: an integer is required, not {v.typeName}")
    let base := if letter == 'o' then 8 else 16
    let ds := Binary64.padDigits (cv.precision.getD 0) (baseDigits base (letter == 'X') n.natAbs)
    let pre : List Char := if cv.alternate then ['0', letter] else []
    return (signOf cv (n < 0) ++ pre, ds, true)
  | 'e' | 'E' | 'f' | 'F' | 'g' | 'G' =>
    let x ← if wrapped then floatOf v else floatArg v
    let p := cv.precision.getD 6
    let upper := letter.isUpper
    let t := match letter.toLower with
      | 'e' => Binary64.scientific x p cv.alternate upper
      | 'f' => Binary64.fixed x p upper cv.alternate
      | _ => Binary64.general x p cv.alternate upper
    let (neg, body) := match t.toList with
      | '-' :: rest => (true, rest)
      | cs => (false, cs)
    return (signOf cv neg, body, true)
  | _ =>
    let c ← if wrapped then throw (.mismatch "%c requires int or char") else match v with
      | int n =>
        if 0 ≤ n && n < 0x110000 then pure (Text.ofCode n.toNat)
        else throw (.overflow "%c arg not in range(0x110000)")
      | bool b => pure (Char.ofNat (if b then 1 else 0))
      | str s | safe s =>
        match s.toList with
        | [c] => pure c
        | _ => throw (.mismatch "%c requires int or char")
      | _ => throw (.mismatch "%c requires int or char")
    return ([], [c], false)

/-- Whether a conversion letter is one percent formatting knows. -/
def isConversionLetter (c : Char) : Bool :=
  "sraiduoxXeEfFgGc".toList.contains c

/-- The failure for an unknown conversion letter at a position of the pattern. -/
def unsupportedLetter (c : Char) (pos : Nat) : Error :=
  let shown := if 31 ≤ c.toNat && c.toNat ≤ 126 then c else '?'
  .badValue s!"unsupported format character {Text.quote shown.toString} (0x{String.ofList (Nat.toDigits 16 (Text.codePoint c))}) at index {pos}"

/-- Where percent formatting takes its values from: the value given (or the value of the last
key), how many items it has when it is a tuple (`-1` otherwise), and the position of the next
one to take (`-2` before the single value of a non-tuple is taken). A value with items by key
that is neither a tuple nor a text (a dictionary, a list, a range, the undefined value) also
gives the values of keyed conversions, and then no value is left unconverted. -/
structure PercentArgs where
  current : Datum
  count : Int
  next : Int
  keys : Option Datum

/-- The items of a tuple, a group counting as the pair of its key and items. -/
def tupleItems? : Datum → Option (List Datum)
  | tuple items => some items
  | group g members => some [g, list members]
  | _ => Option.none

namespace PercentArgs

/-- The arguments as a value gives them. -/
def start (v : Datum) : PercentArgs :=
  let keys := match v with
    | dict _ | list _ | range .. | undefined _ => some v
    | _ => Option.none
  match tupleItems? v with
  | some items => ⟨v, items.length, 0, keys⟩
  | Option.none => ⟨v, -1, -2, keys⟩

/-- The next value, and the arguments after it. -/
def take (a : PercentArgs) : Except Error (Datum × PercentArgs) :=
  if a.next < a.count then
    let v := if a.count < 0 then a.current
      else ((tupleItems? a.current).getD [])[a.next.toNat]?.getD none
    .ok (v, { a with next := a.next + 1 })
  else .error (.mismatch "not enough arguments for format string")

/-- The arguments after taking the value of a key. -/
def keyed (a : PercentArgs) (key : String) : Except Error PercentArgs := do
  let v ← match a.keys with
    | some (dict pairs) =>
      match pairs.find? (fun (k, _) => text? k == some key && !(k matches safe _ && false)) with
      | some (_, v) => pure v
      | Option.none => throw (.noKey (Text.quote key))
    | some (undefined hint) => throw (undefinedError hint)
    | some v => throw (.mismatch s!"{v.typeName} indices must be integers or slices, not str")
    | Option.none => throw (.mismatch "format requires a mapping")
  return { a with current := v, count := -1, next := -2 }

end PercentArgs

/-- The state of reading one conversion: the position reached, whether the pattern ran out,
and the character last read. -/
structure Reading where
  pos : Nat
  ranOut : Bool
  ch : Char

/-- Read the next character of the pattern, or note that it ran out. -/
def Reading.step (a : Array Char) (r : Reading) : Reading :=
  if r.ranOut then r
  else match a[r.pos]? with
    | some c => ⟨r.pos + 1, false, c⟩
    | Option.none => { r with ranOut := true }

/-- The largest width a conversion may ask for. -/
def widthLimit : Nat := Nat.pow 2 63 - 1

/-- The largest precision a conversion may ask for. -/
def precisionLimit : Nat := Nat.pow 2 31 - 1

/-- Digits of a width or precision after its first digit `first`, up to `limit`. -/
def readDigits (a : Array Char) (limit : Nat) (what : String) (first : Nat) (r : Reading) :
    Except Error (Nat × Reading) :=
  let rec go : Nat → Nat → Reading → Except Error (Nat × Reading)
    | 0, n, r => .ok (n, r)
    | fuel + 1, n, r =>
      let r' := r.step a
      if r'.ranOut then .ok (n, r')
      else if r'.ch.isDigit then
        let d := r'.ch.toNat - '0'.toNat
        if (limit - d) / 10 < n then .error (.badValue s!"{what} too big")
        else go fuel (10 * n + d) r'
      else .ok (n, r')
  go (a.size + 1) first r

/-- A width or precision taken from the arguments by `*`, which must be an integer; a value
behind the escaping wrapper of safe text (`wrapped`) never is one. -/
def starValue (wrapped : Bool) (args : PercentArgs) (small : Bool) :
    Except Error (Int × PercentArgs) := do
  let (v, args) ← args.take
  let n ← match wrapped, v with
    | false, int n => pure n
    | false, bool b => pure (if b then 1 else 0)
    | _, _ => throw (.mismatch "* wants int")
  if small then
    if n < -(precisionLimit : Int) - 1 || (precisionLimit : Int) < n then
      throw (.overflow "Python int too large to convert to C int")
  else if n < -(widthLimit : Int) - 1 || (widthLimit : Int) < n then
    throw (.overflow "Python int too large to convert to C ssize_t")
  return (n, args)

/-- Read the conversion after a `%`: its key, flags, width, precision and length modifier, up to
its letter; `wrapped` says the values stand behind the escaping wrapper of safe text. The
result is the conversion, the letter, the reading after it and the arguments. -/
def readConversion (wrapped : Bool) (a : Array Char) (pos : Nat) (args : PercentArgs) :
    Except Error (Conversion × Reading × PercentArgs) := do
  let r : Reading := ⟨pos, false, a[pos]?.getD '\x00'⟩
  -- a key
  let (r, args) ← if a[pos]? == some '(' then do
      if args.keys.isNone then throw (.mismatch "format requires a mapping")
      let body := a.toList.drop (pos + 1)
      let rec close : Nat → Nat → List Char → Option Nat
        | _, _, [] => Option.none
        | depth, i, c :: rest =>
          if c == ')' then (if depth == 0 then some i else close (depth - 1) (i + 1) rest)
          else if c == '(' then close (depth + 1) (i + 1) rest
          else close depth (i + 1) rest
      match close 0 0 body with
      | some k =>
        let args ← args.keyed (String.ofList (body.take k))
        pure (({ pos := pos + k + 2, ranOut := false, ch := ')' } : Reading), args)
      | Option.none => throw (.badValue "incomplete format key")
    else pure (r, args)
  -- flags
  let rec flags : Nat → Conversion → Reading → Conversion × Reading
    | 0, cv, r => (cv, r)
    | fuel + 1, cv, r =>
      let r := r.step a
      if r.ranOut then (cv, r)
      else match r.ch with
        | '-' => flags fuel { cv with left := true } r
        | '+' => flags fuel { cv with sign := true } r
        | ' ' => flags fuel { cv with blank := true } r
        | '#' => flags fuel { cv with alternate := true } r
        | '0' => flags fuel { cv with zero := true } r
        | _ => (cv, r)
  let (cv, r) := flags (a.size + 1) {} r
  -- width
  let (cv, r, args) ← if r.ch == '*' && !r.ranOut then do
      let (w, args) ← starValue wrapped args false
      let cv := if w < 0 then { cv with left := true, width := w.natAbs } else { cv with width := w.toNat }
      pure (cv, r.step a, args)
    else if r.ch.isDigit then do
      let (w, r) ← readDigits a widthLimit "width" (r.ch.toNat - '0'.toNat) r
      pure ({ cv with width := w }, r, args)
    else pure (cv, r, args)
  -- precision
  let (cv, r, args) ← if r.ch == '.' && !r.ranOut then do
      let r := r.step a
      if r.ch == '*' && !r.ranOut then do
        let (p, args) ← starValue wrapped args true
        pure ({ cv with precision := some p.toNat }, r.step a, args)
      else if r.ch.isDigit && !r.ranOut then do
        let (p, r) ← readDigits a precisionLimit "precision" (r.ch.toNat - '0'.toNat) r
        pure ({ cv with precision := some p }, r, args)
      else pure ({ cv with precision := some 0 }, r, args)
    else pure (cv, r, args)
  -- a length modifier, ignored
  let r := if !r.ranOut && (r.ch == 'h' || r.ch == 'l' || r.ch == 'L') then r.step a else r
  if r.ranOut then throw (.badValue "incomplete format")
  return (cv, r, args)

/-- Apply percent formatting to a pattern with the value after `%`; `wrapped` says the pattern is
safe text, whose values are escaped. -/
def percent (wrapped : Bool) (pattern : List Char) (given : Datum) : Except Error String := do
  let a := pattern.toArray
  let rec go : Nat → Nat → PercentArgs → List Char → Except Error (List Char × PercentArgs)
    | 0, _, args, out => .ok (out, args)
    | fuel + 1, pos, args, out =>
      match a[pos]? with
      | Option.none => .ok (out, args)
      | some '%' =>
        if a[pos + 1]? == some '%' then go fuel (pos + 2) args (out ++ ['%'])
        else do
          let (cv, r, args) ← readConversion wrapped a (pos + 1) args
          let (v, args) ← args.take
          let letter := r.ch
          unless isConversionLetter letter do throw (unsupportedLetter letter (r.pos - 1))
          let (signPart, body, numeric) ← convertValue wrapped cv letter v
          let cv := if numeric then cv else { cv with zero := false }
          go fuel r.pos args (out ++ padConversion cv numeric signPart body)
      | some c => go fuel (pos + 1) args (out ++ [c])
  let (out, args) ← go (a.size + 1) 0 (PercentArgs.start given) []
  if args.next < args.count && args.keys.isNone then
    throw (.mismatch "not all arguments converted during string formatting")
  return String.ofList out

/-- Arithmetic on two values, where `%` after a text formats it with the value on the right:
the items of a tuple, or the value itself. -/
def operate (op : ArithOp) (a b : Datum) : Except Error Datum :=
  match op, a with
  | .mod, str s => str <$> percent false s.toList b.bare
  | .mod, safe s => safe <$> percent true s.toList b.bare
  | _, _ => arith op a b

/-! ## The format mini-language -/

/-- A parsed format spec: the fill and the alignment (the value's default when none is given),
the sign asked for, `z` (a negative zero shown without its sign), `#` (the alternate form), the
width, digit grouping (`,` or `_`), the precision, and the presentation letter (the value's
default when none is given; none for the default of a float). -/
structure Spec where
  fill : Char := ' '
  align : Char := '>'
  sign : Option Char := Option.none
  zeroNeg : Bool := false
  alternate : Bool := false
  width : Option Nat := Option.none
  grouping : Option Char := Option.none
  precision : Option Nat := Option.none
  letter : Option Char := Option.none

/-- Whether a character is an alignment. -/
def isAlign (c : Char) : Bool := c == '<' || c == '>' || c == '=' || c == '^'

/-- The failure for a width, precision or index with more digits than an index holds. -/
def tooManyDigits : Error := .badValue "Too many decimal digits in format string"

/-- The number written by the decimal digits (of any script) at the start of a text, and the
rest; none when the text starts with no digit. A number above the largest index fails. -/
def specNumber (cs : List Char) : Except Error (Option Nat × List Char) :=
  let ds := cs.takeWhile fun c => (Text.decimalValue? c).isSome
  if ds.isEmpty then .ok (Option.none, cs)
  else
    let n := ds.foldl (fun n c => 10 * n + (Text.decimalValue? c).getD 0) 0
    if widthLimit < n then .error tooManyDigits else .ok (some n, cs.drop ds.length)

/-- A presentation letter as failures quote it: itself when it is printable ASCII, else its
code in hexadecimal. -/
def letterText (c : Char) : String :=
  if 32 < c.toNat && c.toNat < 128 then "'" ++ c.toString ++ "'"
  else "'\\x" ++ String.ofList (Nat.toDigits 16 c.toNat) ++ "'"

/-- The failure for both kinds of digit grouping in one spec. -/
def bothSeparators : Error := .badValue "Cannot specify both ',' and '_'."

/-- Parse a format spec for a value of class `cls`, whose default presentation is
`defaultLetter` and default alignment `defaultAlign`. A `0` before the width asks for `0` as
the fill unless a fill is given, and for `=` alignment when none is given and numbers are
right-aligned by default. Grouping fits decimal and float presentations; `_` also fits binary,
octal and hexadecimal ones, where it groups by four. -/
def parseSpec (spec : List Char) (cls : String) (defaultLetter : Option Char)
    (defaultAlign : Char) : Except Error Spec := do
  let (fill, align, fillGiven, alignGiven, cs) : Char × Char × Bool × Bool × List Char :=
    match spec with
    | f :: a :: rest =>
      if isAlign a then (f, a, true, true, rest)
      else if isAlign f then (' ', f, false, true, a :: rest)
      else (' ', defaultAlign, false, false, spec)
    | [a] => if isAlign a then (' ', a, false, true, []) else (' ', defaultAlign, false, false, spec)
    | [] => (' ', defaultAlign, false, false, [])
  let (sign, cs) : Option Char × List Char := match cs with
    | c :: rest => if c == '+' || c == '-' || c == ' ' then (some c, rest) else (Option.none, cs)
    | [] => (Option.none, cs)
  let (zeroNeg, cs) := match cs with
    | 'z' :: rest => (true, rest)
    | _ => (false, cs)
  let (alternate, cs) := match cs with
    | '#' :: rest => (true, rest)
    | _ => (false, cs)
  let (fill, align, cs) := match cs with
    | '0' :: rest =>
      if fillGiven then (fill, align, cs)
      else ('0', (if !alignGiven && defaultAlign == '>' then '=' else align), rest)
    | _ => (fill, align, cs)
  let (width, cs) ← specNumber cs
  let (grouping, cs) : Option Char × List Char := match cs with
    | ',' :: rest => (some ',', rest)
    | _ => (Option.none, cs)
  let (grouping, cs) ← match cs with
    | '_' :: rest => if grouping.isSome then throw bothSeparators else pure (some '_', rest)
    | _ => pure (grouping, cs)
  if grouping == some '_' && cs.head? == some ',' then throw bothSeparators
  let (precision, cs) ← match cs with
    | '.' :: rest => do
      match ← specNumber rest with
      | (some p, r) => pure (some p, r)
      | (Option.none, _) => throw (.badValue "Format specifier missing precision")
    | _ => pure (Option.none, cs)
  let letter ← match cs with
    | [] => pure defaultLetter
    | [c] => pure (some c)
    | _ =>
      throw (.badValue ("Invalid format specifier '" ++ String.ofList spec ++
        "' for object of type '" ++ cls ++ "'"))
  if let some g := grouping then
    let cannot (c : Char) : Error :=
      .badValue ("Cannot specify '" ++ g.toString ++ "' with " ++ letterText c ++ ".")
    match letter with
    | Option.none | some 'd' | some 'e' | some 'f' | some 'g' | some 'E' | some 'G' | some '%'
    | some 'F' => pure ()
    | some 'b' | some 'o' | some 'x' | some 'X' => unless g == '_' do throw (cannot (letter.getD 'd'))
    | some c => throw (cannot c)
  return { fill, align, sign, zeroNeg, alternate, width, grouping, precision, letter }

/-- The failure for a letter a value's class has no presentation for. -/
def unknownCode (c : Char) (cls : String) : Error :=
  .badValue ("Unknown format code " ++ letterText c ++ " for object of type '" ++ cls ++ "'")

/-- The widest field formatting builds. -/
def widthBound : Nat := 1000000000

/-- The sign a number shows for a spec: its minus, else the plus or space the spec asks for. -/
def signPart (sp : Spec) (neg : Bool) : List Char :=
  if neg then ['-'] else match sp.sign with
    | some '+' => ['+']
    | some ' ' => [' ']
    | _ => []

/-- Digits grouped from the right, `size` to a group with `sep` between groups, after zeros
added on the left so that the grouped digits are at least `minWidth` long; no group starts
with a separator, so the result may be one longer. Without a separator the digits are only
padded with zeros. -/
def groupedDigits (sep : Option Char) (size : Nat) (ds : List Char) (minWidth : Nat) :
    List Char :=
  match sep with
  | Option.none => List.replicate (minWidth - ds.length) '0' ++ ds
  | some s => (go s (ds.length + minWidth + 2) ds.reverse minWidth []).reverse
where
  /-- Groups from the right: the digits left (rightmost first), the width still to fill, and
  the output so far (rightmost first). -/
  go (s : Char) : Nat → List Char → Nat → List Char → List Char
    | 0, _, _, acc => acc
    | fuel + 1, rest, width, acc =>
      let len := min size (max (max rest.length width) 1)
      let chars := min rest.length len
      let acc := acc ++ rest.take chars ++ List.replicate (len - chars) '0'
      let rest := rest.drop chars
      if rest.isEmpty && width ≤ len then acc
      else go s fuel rest (width - len - 1) (acc ++ [s])

/-- A number laid out as a spec asks: padding, the sign, a prefix such as `0x`, the digits of
the integer part (grouped as `sep` and `size` say), and the rest (decimal point, fraction,
exponent, `%`). With `0` as fill and `=` alignment the padding is made of digits, grouped with
the others. -/
def layoutNumber (sp : Spec) (neg : Bool) (pre ds rest : List Char) (sep : Option Char)
    (size : Nat) : Except Error (List Char) := do
  let width := sp.width.getD 0
  if widthBound < width then throw (.raised "MemoryError" "")
  let sg := signPart sp neg
  let fixed := sg.length + pre.length + rest.length
  let minWidth := if sp.fill == '0' && sp.align == '=' then width - fixed else 0
  let grouped := if ds.isEmpty then [] else groupedDigits sep size ds minWidth
  let pad := width - (fixed + grouped.length)
  let fill (n : Nat) := List.replicate n sp.fill
  return match sp.align with
    | '<' => sg ++ pre ++ grouped ++ rest ++ fill pad
    | '^' => fill (pad / 2) ++ sg ++ pre ++ grouped ++ rest ++ fill (pad - pad / 2)
    | '=' => sg ++ pre ++ fill pad ++ grouped ++ rest
    | _ => fill pad ++ sg ++ pre ++ grouped ++ rest

/-- The separator and group size a spec groups digits with, for a presentation in a base. -/
def separatorOf (sp : Spec) (base : Nat) : Option Char × Nat :=
  (sp.grouping, if base == 10 then 3 else 4)

/-- A float formatted by a spec; `letter` is the presentation (none for the default). -/
def formatFloat (sp : Spec) (x : Binary64) (letter : Option Char) : Except Error (List Char) := do
  if let some p := sp.precision then
    if precisionLimit < p then throw (.badValue "precision too big")
  let p := sp.precision
  let upper := match letter with
    | some c => c.isUpper
    | Option.none => false
  let (x, suffix) : Binary64 × List Char := match letter with
    | some '%' =>
      match Binary64.magnitude? x with
      | some (neg, n, d) => (Binary64.ofRatio neg (n * 100) d, ['%'])
      | Option.none => (x, ['%'])
    | _ => (x, [])
  let t : String := match letter with
    | some 'e' | some 'E' => Binary64.scientific x (p.getD 6) sp.alternate upper
    | some 'f' | some 'F' | some '%' => Binary64.fixed x (p.getD 6) upper sp.alternate
    | some 'g' | some 'G' | some 'n' => Binary64.general x (p.getD 6) sp.alternate upper
    | _ =>
      match p with
      | Option.none =>
        -- the alternate form always shows a decimal point
        let t := x.text.toList
        if sp.alternate && !t.contains '.' && t.contains 'e' then
          let (mant, rest) := t.span (· != 'e')
          String.ofList (mant ++ '.' :: rest)
        else x.text
      | some q =>
        match Binary64.magnitude? x with
        | some (neg, n, d) =>
          let q := max q 1
          let (_, e) := Binary64.significant n d (q - 1)
          let cs :=
            if e < -4 || (q : Int) - 1 ≤ e then
              let s := Binary64.scientificChars n d (q - 1) sp.alternate
              let (mant, rest) := s.span (· != 'e')
              (if sp.alternate then mant else Binary64.trimFraction mant) ++ rest
            else
              let whole := Binary64.fixedChars n d ((q : Int) - 1 - e).toNat
              let f := if sp.alternate then whole else Binary64.trimFraction whole
              if f.contains '.' then f else f ++ ['.', '0']
          String.ofList ((if neg then ['-'] else []) ++ cs)
        | Option.none => Binary64.specialText false x
  let (neg, body) := match t.toList with
    | '-' :: rest => (true, rest)
    | cs => (false, cs)
  let (mantissa, _) := body.span fun c => c != 'e' && c != 'E'
  let isZero := mantissa.all fun c => c == '0' || c == '.'
  let neg := neg && !(sp.zeroNeg && isZero)
  let ds := body.takeWhile Char.isDigit
  let sep := if letter == some 'n' then Option.none else sp.grouping
  layoutNumber sp neg [] ds (body.drop ds.length ++ suffix) sep 3

/-- A text formatted by a spec: cut to the precision and padded to the width. -/
def formatText (s : String) (spec : List Char) : Except Error String := do
  if spec.isEmpty then return s
  let sp ← parseSpec spec "str" (some 's') '<'
  if sp.letter != some 's' then throw (unknownCode (sp.letter.getD 's') "str")
  match sp.sign with
  | some ' ' => throw (.badValue "Space not allowed in string format specifier")
  | some _ => throw (.badValue "Sign not allowed in string format specifier")
  | Option.none => pure ()
  if sp.zeroNeg then
    throw (.badValue "Negative zero coercion (z) not allowed in string format specifier")
  if sp.alternate then throw (.badValue "Alternate form (#) not allowed in string format specifier")
  if sp.align == '=' then throw (.badValue "'=' alignment not allowed in string format specifier")
  let width := sp.width.getD 0
  if widthBound < width then throw (.raised "MemoryError" "")
  let cs := s.toList
  let cs := match sp.precision with
    | some p => cs.take p
    | Option.none => cs
  let pad := width - cs.length
  let fill (n : Nat) := List.replicate n sp.fill
  return String.ofList (match sp.align with
    | '>' => fill pad ++ cs
    | '^' => fill (pad / 2) ++ cs ++ fill (pad - pad / 2)
    | _ => cs ++ fill pad)

/-- An integer formatted by a spec; `cls` names its class. -/
def formatInt (n : Int) (cls : String) (spec : List Char) : Except Error String := do
  let sp ← parseSpec spec cls (some 'd') '>'
  match sp.letter with
  | some 'e' | some 'E' | some 'f' | some 'F' | some 'g' | some 'G' | some '%' =>
    return String.ofList (← formatFloat sp (← Num.toFloat (.int n)) sp.letter)
  | some 'b' | some 'c' | some 'd' | some 'o' | some 'x' | some 'X' | some 'n' =>
    if sp.precision.isSome then throw (.badValue "Precision not allowed in integer format specifier")
    if sp.zeroNeg then
      throw (.badValue "Negative zero coercion (z) not allowed in integer format specifier")
    if sp.letter == some 'c' then
      if sp.sign.isSome then throw (.badValue "Sign not allowed with integer format specifier 'c'")
      if sp.alternate then
        throw (.badValue "Alternate form (#) not allowed with integer format specifier 'c'")
      if n < -(Nat.pow 2 63 : Int) || (Nat.pow 2 63 : Int) ≤ n then
        throw (.overflow "Python int too large to convert to C long")
      if n < 0 || 0x110000 ≤ n then throw (.overflow "%c arg not in range(0x110000)")
      return String.ofList (← layoutNumber sp false [] [] [Text.ofCode n.toNat] Option.none 3)
    let (base, upper, pre) : Nat × Bool × List Char := match sp.letter with
      | some 'b' => (2, false, ['0', 'b'])
      | some 'o' => (8, false, ['0', 'o'])
      | some 'x' => (16, false, ['0', 'x'])
      | some 'X' => (16, true, ['0', 'X'])
      | _ => (10, false, [])
    if base == 10 && Text.tooManyDigits n.natAbs then throw intTextFailure
    let ds := baseDigits base upper n.natAbs
    let (sep, size) := separatorOf sp base
    let sep := if sp.letter == some 'n' then Option.none else sep
    return String.ofList
      (← layoutNumber sp (n < 0) (if sp.alternate then pre else []) ds [] sep size)
  | some c => throw (unknownCode c cls)
  | Option.none => throw (unknownCode 'd' cls)

/-- A value formatted by a spec, as the `format` built-in does. -/
def formatWith (v : Datum) (spec : List Char) : Except Error String := do
  let v := v.bare
  match v with
  | undefined hint => throw (undefinedError hint)
  | str s | safe s => formatText s spec
  | bool _ | int _ =>
    if spec.isEmpty then return (← text v)
    let n : Int := match v with
      | int n => n
      | bool b => if b then 1 else 0
      | _ => 0
    formatInt n (if v matches bool _ then "bool" else "int") spec
  | float x =>
    if spec.isEmpty then return x.text
    let sp ← parseSpec spec "float" Option.none '>'
    match sp.letter with
    | Option.none | some 'e' | some 'E' | some 'f' | some 'F' | some 'g' | some 'G' | some 'n'
    | some '%' => return String.ofList (← formatFloat sp x sp.letter)
    | some c => throw (unknownCode c "float")
  | v =>
    if spec.isEmpty then text v
    else throw (.mismatch s!"unsupported format string passed to {v.typeName}.__format__")

/-! ## Field formatting -/

/-- How fields are numbered so far: not yet, automatically, or by hand. -/
inductive Numbering where
  | unset
  | auto (next : Nat)
  | manual
  deriving BEq

/-- A field's first part or item key as a positional index, when it is all decimal digits (of
any script); an index above the largest one fails. -/
def fieldIndex (cs : List Char) : Except Error (Option Nat) :=
  if !cs.isEmpty && cs.all Text.isDecimalChar then
    let n := cs.foldl (fun n c => 10 * n + (Text.decimalValue? c).getD 0) 0
    if widthLimit < n then .error tooManyDigits else .ok (some n)
  else .ok Option.none

/-- The next part of a field's name after its first: an attribute (`.name`, up to the next `.`
or `[`) or an item (`[key]`), with the rest; none at the end of the name. -/
def nextPart (cs : List Char) : Except Error (Option (Bool × List Char × List Char)) :=
  match cs with
  | [] => .ok Option.none
  | '.' :: rest =>
    let name := rest.takeWhile fun c => c != '.' && c != '['
    if name.isEmpty then .error (.badValue "Empty attribute in format string")
    else .ok (some (true, name, rest.drop name.length))
  | '[' :: rest =>
    let key := rest.takeWhile (· != ']')
    match rest.drop key.length with
    | [] => .error (.badValue "Missing ']' in format string")
    | _ :: more =>
      if key.isEmpty then .error (.badValue "Empty attribute in format string")
      else .ok (some (false, key, more))
  | _ => .error (.badValue "Only '.' or '[' may follow ']' in format field specifier")

/-- The value a field's further parts name, from the value its first part names; each part is
read only once the parts before it were looked up. -/
def followParts : Nat → Datum → List Char → Except Error Datum
  | 0, v, _ => .ok v
  | fuel + 1, acc, cs => do
    match ← nextPart cs with
    | Option.none => return acc
    | some (isAttr, p, rest) =>
      let key := String.ofList p
      let next ← if isAttr then
          match ← attrOnly acc key with
          | some x => pure x
          | Option.none =>
            throw (.noAttribute s!"{Text.quote acc.typeName} object has no attribute {Text.quote key}")
        else do
          let k : Datum := match ← fieldIndex p with
            | some i => int i
            | Option.none => str key
          match ← itemOnly acc k with
          | some x => pure x
          | Option.none =>
            match acc.bare with
            | dict _ => throw (.noKey (← reprText k))
            | list _ | tuple _ => throw (.noIndex s!"{acc.typeName} index out of range")
            | _ => throw (.mismatch s!"{Text.quote acc.typeName} object is not subscriptable")
      followParts fuel next rest

/-- The failure for a field numbered automatically after one numbered by hand. -/
def manualThenAuto : Error :=
  .badValue "cannot switch from manual field specification to automatic field numbering"

/-- The value a field names, and the numbering after it. Plain text numbers a field by its
first part: an empty one takes the next position, digits name a position. Safe text numbers a
field by its whole name: an empty name takes the next position and a name of digits is
numbered by hand; any other name is looked up as it reads, an empty first part naming the
keyword argument with the empty name. -/
def fieldValue (markup : Bool) (name : List Char) (args : Option (List Datum))
    (named : List (String × Datum)) (numbering : Numbering) :
    Except Error (Datum × Numbering) := do
  let first := name.takeWhile fun c => c != '.' && c != '['
  let rest := name.drop first.length
  let index ← fieldIndex first
  let (target, numbering) ← if markup then
      if name.isEmpty then
        match numbering with
        | .manual => throw manualThenAuto
        | .auto k => pure (Sum.inl k, Numbering.auto (k + 1))
        | .unset => pure (Sum.inl 0, Numbering.auto 1)
      else
        let numbering ← if name.all Text.isDigitChar then
            match numbering with
            | .auto _ => throw manualThenAuto
            | _ => pure Numbering.manual
          else pure numbering
        match index with
        | some k => pure (Sum.inl k, numbering)
        | Option.none => pure (Sum.inr (String.ofList first), numbering)
    else if first.isEmpty then
      match numbering with
      | .manual => throw manualThenAuto
      | .auto k => pure (Sum.inl k, Numbering.auto (k + 1))
      | .unset => pure (Sum.inl 0, Numbering.auto 1)
    else match index with
      | some k =>
        match numbering with
        | .auto _ =>
          throw (.badValue "cannot switch from automatic field numbering to manual field specification")
        | _ => pure (Sum.inl k, Numbering.manual)
      | Option.none => pure (Sum.inr (String.ofList first), numbering)
  let v ← match target with
    | .inl k =>
      match args, markup with
      | Option.none, false => throw (.badValue "Format string contains positional fields")
      | xs, _ =>
        match (xs.getD [])[k]? with
        | some v => pure v
        | Option.none =>
          if markup then throw (.noIndex "tuple index out of range")
          else throw (.noIndex s!"Replacement index {k} out of range for positional args tuple")
    | .inr key =>
      match named.lookup key with
      | some v => pure v
      | Option.none => throw (.noKey (Text.quote key))
  let v ← followParts (rest.length + 1) v rest
  return (v, numbering)

/-- A replacement field read after its opening brace: its name, its conversion letter, its
spec, whether the spec holds fields of its own, and the text after the field. The name ends at
`!`, `:` or the closing brace, though brackets in it may hold any of these; a conversion is the
one character after `!`, followed by `:` or the closing brace; braces in a spec nest. -/
structure FieldText where
  name : List Char
  conversion : Option Char
  spec : List Char
  nested : Bool
  after : List Char

/-- A field's name, the character that ended it (none at the end of the text), and the rest. -/
def fieldName : Nat → List Char → List Char → Except Error (List Char × Option Char × List Char)
  | 0, acc, rest => .ok (acc.reverse, Option.none, rest)
  | _ + 1, acc, [] => .ok (acc.reverse, Option.none, [])
  | fuel + 1, acc, c :: rest =>
    if c == '{' then .error (.badValue "unexpected '\x7b' in field name")
    else if c == '[' then
      let inside := rest.takeWhile (· != ']')
      fieldName fuel (inside.reverse ++ '[' :: acc) (rest.drop inside.length)
    else if c == '}' || c == ':' || c == '!' then .ok (acc.reverse, some c, rest)
    else fieldName fuel (c :: acc) rest

/-- A field's spec up to the brace that closes the field, `depth` braces being open, and
whether it holds a brace of its own; the rest follows. -/
def fieldSpec : List Char → Nat → List Char → Bool → Except Error (List Char × Bool × List Char)
  | [], _, _, _ => .error (.badValue "unmatched '\x7b' in format spec")
  | c :: rest, depth, acc, nested =>
    if c == '{' then fieldSpec rest (depth + 1) (c :: acc) true
    else if c == '}' then
      if depth ≤ 1 then .ok (acc.reverse, nested, rest) else fieldSpec rest (depth - 1) (c :: acc) nested
    else fieldSpec rest depth (c :: acc) nested

/-- Read a replacement field after its opening brace. -/
def parseField (cs : List Char) : Except Error FieldText := do
  let (name, stop, rest) ← fieldName (cs.length + 1) [] cs
  match stop with
  | some '}' => return { name, conversion := Option.none, spec := [], nested := false, after := rest }
  | some '!' =>
    match rest with
    | [] => throw (.badValue "end of string while looking for conversion specifier")
    | k :: more =>
      match more with
      | '}' :: after => return { name, conversion := some k, spec := [], nested := false, after }
      | ':' :: more => do
        let (spec, nested, after) ← fieldSpec more 1 [] false
        return { name, conversion := some k, spec, nested, after }
      | [] => do
        let (spec, nested, after) ← fieldSpec [] 1 [] false
        return { name, conversion := some k, spec, nested, after }
      | _ => throw (.badValue "expected ':' after conversion specifier")
  | some _ => do
    let (spec, nested, after) ← fieldSpec rest 1 [] false
    return { name, conversion := Option.none, spec, nested, after }
  | Option.none => throw (.badValue "expected '\x7d' before end of string")

/-- The failure for a conversion letter that is none of `r`, `s` and `a`. -/
def unknownConversion (c : Char) : Error :=
  if 32 < c.toNat && c.toNat < 127 then .badValue ("Unknown conversion specifier " ++ c.toString)
  else .badValue ("Unknown conversion specifier \\x" ++ String.ofList (Nat.toDigits 16 c.toNat))

/-- Apply field formatting to a pattern; `depth` bounds fields nested in specs. -/
def fields (markup : Bool) (args : Option (List Datum)) (named : List (String × Datum)) :
    Nat → List Char → Numbering → Except Error (List Char × Numbering)
  | 0, _, _ => .error (.badValue "Max string recursion exceeded")
  | depth + 1, pattern, numbering => do
    let rec go : Nat → List Char → Numbering → List Char → Except Error (List Char × Numbering)
      | 0, _, numbering, out => .ok (out, numbering)
      | fuel + 1, cs, numbering, out =>
        match cs with
        | [] => .ok (out, numbering)
        | '{' :: '{' :: rest => go fuel rest numbering (out ++ ['{'])
        | '}' :: '}' :: rest => go fuel rest numbering (out ++ ['}'])
        | '}' :: _ => .error (.badValue "Single '\x7d' encountered in format string")
        | ['{'] => .error (.badValue "Single '\x7b' encountered in format string")
        | '{' :: rest => do
          let f ← parseField rest
          let (name, conv, spec, after) := (f.name, f.conversion, f.spec, f.after)
          let (v, numbering) ← fieldValue markup name args named numbering
          let v ← match conv with
            | Option.none => pure v
            | some 's' => pure (str (← text v))
            | some 'r' => pure (str (← reprText v))
            | some 'a' => pure (str (Text.asciiEscape (← reprText v)))
            | some c => throw (unknownConversion c)
          let (spec, numbering) ←
            if f.nested then fields markup args named depth spec numbering
            else pure (spec, numbering)
          let t ← match v with
            | safe t =>
              if markup && !spec.isEmpty then
                throw (.badValue "Unsupported format specification for Markup.")
              else if markup then pure t
              else formatWith v spec
            | _ => formatWith v spec
          go fuel after numbering (out ++ (escapedText markup v t).toList)
        | c :: rest => go fuel rest numbering (out ++ [c])
    go (pattern.length + 1) pattern numbering []

/-- Apply field formatting to a pattern with named arguments, and with positional ones unless
they are none (fields that name one then fail). -/
def formatFieldsWith (markup : Bool) (pattern : String) (args : Option (List Datum))
    (named : List (String × Datum)) : Except Error String := do
  let (out, _) ← fields markup args named 2 pattern.toList .unset
  return String.ofList out

/-- Apply field formatting to a pattern with arguments. -/
def formatFields (markup : Bool) (pattern : String) (args : List Datum)
    (named : List (String × Datum)) : Except Error String :=
  formatFieldsWith markup pattern (some args) named

end Datum
end Template
end UiTags
