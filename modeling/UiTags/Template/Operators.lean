import UiTags.Template.Datum
import UiTags.Number.Power
import UiTags.Markup.Html
import UiTags.Text.Case
import UiTags.Text.Basic

/-!
# Template operators

Arithmetic, joining, attribute and item access, slices, and the methods of values.

* Integers compute exactly; `/` always gives a float, `//` and `%` round toward minus
  infinity, and `**` with a negative exponent gives a float. A float operand makes the result a
  float, computed exactly and then rounded to the nearest float. Division by zero fails.
* `+` also joins texts, lists and tuples; a safe text joined with a plain one escapes the plain
  one. `*` repeats a text, list or tuple.
* `~` joins the texts of its operands. Where printing escapes, a safe operand makes the whole
  safe and escapes the plain operands.
* `a.name` looks for an attribute and then for an item of that name; `a[key]` looks for an item
  and then, for a text key, an attribute. What neither finds is undefined.
-/

namespace UiTags
namespace Template

namespace Num

/-- The fraction of a finite number, or none for a float that is not finite. -/
def ratio? : Num → Option (Int × Nat)
  | .int n => some (n, 1)
  | .float x => Binary64.ratio? x

/-- Whether a number is a float. -/
def isFloat : Num → Bool
  | .float _ => true
  | .int _ => false

/-- The sign of a number that is not finite: true for minus infinity; none for not a
number. -/
def infiniteSign? : Num → Option Bool
  | .float (.infinite neg) => some neg
  | _ => Option.none

/-- A number as a float: an integer rounded to the nearest float, failing when it is too large
for one. -/
def toFloat : Num → Except Error Binary64
  | .float x => .ok x
  | .int n =>
    match Binary64.ofFraction n 1 with
    | .infinite _ => .error (.overflow "int too large to convert to float")
    | x => .ok x

/-- Whether a number is below zero, or is negative zero. -/
def negative : Num → Bool
  | .int n => n < 0
  | .float x => x.signBit

/-- Whether a number is zero, of either sign. -/
def isZero : Num → Bool
  | .int n => n == 0
  | .float x => x.isZero

/-- The float power of two numbers. -/
def floatPower (a b : Num) : Except Error Binary64 := do
  match UiTags.Binary64.power (← a.toFloat) (← b.toFloat) with
  | .ok x => .ok x
  | .error .zeroToNegative => .error (.zeroDivision "0.0 cannot be raised to a negative power")
  | .error .notReal => .error (.mismatch "a negative number to a fractional power is not real")
  | .error .overflow => .error (.overflow "(34, 'Numerical result out of range')")

end Num

namespace Datum

/-! ## Numbers -/

/-- The failure of an operator on operands of kinds it does not take. -/
def operandError (op : String) (a b : Datum) : Error :=
  .mismatch s!"unsupported operand type(s) for {op}: {Text.quote a.typeName} and {Text.quote b.typeName}"

/-- A number as a value. -/
def ofNum : Num → Datum
  | .int n => int n
  | .float x => float x

/-- The greatest integer at most a fraction. -/
def floorOf (n : Int) (d : Nat) : Int := Int.fdiv n d

/-- Arithmetic on two numbers. -/
def numArith (op : ArithOp) (a b : Num) : Except Error Datum :=
  match op, a, b with
  | .add, .int x, .int y => .ok (int (x + y))
  | .sub, .int x, .int y => .ok (int (x - y))
  | .mul, .int x, .int y => .ok (int (x * y))
  | .floorDiv, .int x, .int y =>
    if y == 0 then .error (.zeroDivision "integer division or modulo by zero")
    else .ok (int (Int.fdiv x y))
  | .mod, .int x, .int y =>
    if y == 0 then .error (.zeroDivision "integer modulo by zero")
    else .ok (int (Int.fmod x y))
  | .pow, .int x, .int y =>
    if 0 ≤ y then
      if 100000 < y && 1 < x.natAbs then .error (.mismatch "exponent too large")
      else .ok (int (Int.pow x y.toNat))
    else float <$> Num.floatPower (.int x) (.int y)
  | .pow, _, _ => float <$> Num.floatPower a b
  | _, a0, b0 => do
    let mixed := a0.isFloat || b0.isFloat
    let a ← if mixed then Num.float <$> a0.toFloat else pure a0
    let b ← if mixed then Num.float <$> b0.toFloat else pure b0
    let zero (neg : Bool) : Datum := float (.finite neg 0 Binary64.minExp)
    let sa := a.negative
    let sb := b.negative
    if (op matches .div | .floorDiv | .mod) && b.isZero then
      match op with
      | .floorDiv => throw (.zeroDivision (if mixed then "float floor division by zero"
          else "integer division or modulo by zero"))
      | .mod => throw (.zeroDivision (if mixed then "float modulo" else "integer modulo by zero"))
      | _ => throw (.zeroDivision (if mixed then "float division by zero" else "division by zero"))
    match a.ratio?, b.ratio? with
    | some (p, q), some (r, s) =>
      let num := p * s * (if r < 0 then -1 else 1)
      let den := q * r.natAbs
      match op with
      | .add =>
        let n := p * s + r * q
        return if n == 0 then zero (sa && sb) else float (Binary64.ofFraction n (q * s))
      | .sub =>
        let n := p * s - r * q
        return if n == 0 then zero (sa && !sb) else float (Binary64.ofFraction n (q * s))
      | .mul =>
        let n := p * r
        return if n == 0 then zero (sa != sb) else float (Binary64.ofFraction n (q * s))
      | .div =>
        if num == 0 then return zero (sa != sb)
        match Binary64.ofFraction num den with
        | .infinite neg =>
          if mixed then return float (.infinite neg)
          else throw (.overflow "integer division result too large for a float")
        | x => return float x
      | .floorDiv =>
        let k := floorOf num den
        return if k == 0 then zero (p == 0 && sa != sb) else float (Binary64.ofFraction k 1)
      | .mod =>
        -- a - b * k, over the common denominator q * s
        let n := p * s - floorOf num den * r * q
        return if n == 0 then zero sb else float (Binary64.ofFraction n (q * s))
      | .pow => float <$> Num.floatPower a b
    | _, _ =>
      match op, a.infiniteSign?, b.infiniteSign?, a.ratio?, b.ratio? with
      | .add, some u, some v, _, _ => return float (if u == v then .infinite u else .nan)
      | .add, some u, Option.none, _, some _ => return float (.infinite u)
      | .add, Option.none, some v, some _, _ => return float (.infinite v)
      | .sub, some u, some v, _, _ => return float (if u != v then .infinite u else .nan)
      | .sub, some u, Option.none, _, some _ => return float (.infinite u)
      | .sub, Option.none, some v, some _, _ => return float (.infinite !v)
      | .mul, some u, Option.none, _, some (r, _) =>
        return float (if r == 0 then .nan else .infinite (u != sb))
      | .mul, Option.none, some v, some (p, _), _ =>
        return float (if p == 0 then .nan else .infinite (v != sa))
      | .mul, some u, some v, _, _ => return float (.infinite (u != v))
      | .div, Option.none, some _, some _, _ => return zero (sa != sb)
      | .div, some _, Option.none, _, some _ => return float (.infinite (sa != sb))
      | .floorDiv, Option.none, some _, some (p, _), _ =>
        return if p != 0 && sa != sb then float (Binary64.ofFraction (-1) 1) else zero (sa != sb)
      | .mod, Option.none, some _, some (p, _), _ =>
        return if p != 0 && sa != sb then float (.infinite sb)
          else if p == 0 then zero sb else ofNum a
      | _, _, _, _, _ => return float .nan

/-! ## Operators on values -/

/-- Text joined to safe text: the plain part escaped. -/
def safeJoin (a b : Datum) : Option Datum :=
  match a, b with
  | safe s, safe t => some (safe (s ++ t))
  | safe s, str t => some (safe (s ++ Html.escape t))
  | str s, safe t => some (safe (Html.escape s ++ t))
  | str s, str t => some (str (s ++ t))
  | _, _ => Option.none

/-- A text, list or tuple repeated. -/
def repeatValue (v : Datum) (n : Int) : Option Datum :=
  let k := n.toNat
  match v with
  | str s => some (str (String.join (List.replicate k s)))
  | safe s => some (safe (String.join (List.replicate k s)))
  | list xs => some (list (List.flatten (List.replicate k xs)))
  | tuple xs => some (tuple (List.flatten (List.replicate k xs)))
  | _ => Option.none

/-- The text of an operator for failures. -/
def arithSymbol : ArithOp → String
  | .add => "+"
  | .sub => "-"
  | .mul => "*"
  | .div => "/"
  | .floorDiv => "//"
  | .mod => "%"
  | .pow => "** or pow()"

/-- Arithmetic on two values. -/
def arith (op : ArithOp) (a b : Datum) : Except Error Datum :=
  let a := a.bare
  let b := b.bare
  match a, b with
  | undefined hint, _ => .error (undefinedError hint)
  | _, undefined hint => .error (undefinedError hint)
  | _, _ =>
    match num? a, num? b with
    | some x, some y => numArith op x y
    | _, _ =>
      match op with
      | .add =>
        match safeJoin a b, a, b with
        | some v, _, _ => .ok v
        | _, list xs, list ys => .ok (list (xs ++ ys))
        | _, tuple xs, tuple ys => .ok (tuple (xs ++ ys))
        | _, str _, _ =>
          .error (.mismatch s!"can only concatenate str (not {Text.quote b.typeName}) to str")
        | _, _, _ => .error (operandError "+" a b)
      | .mul =>
        let count : Datum → Option Int
          | int n => some n
          | bool t => some (if t then 1 else 0)
          | _ => Option.none
        let result := match count a, count b with
          | some n, _ => repeatValue b n
          | _, some n => repeatValue a n
          | _, _ => Option.none
        match result with
        | some r => .ok r
        | Option.none => .error (operandError "*" a b)
      | op => .error (operandError (arithSymbol op) a b)

/-- The negation of a number. -/
def negate : Datum → Except Error Datum
  | held _ v => negate v
  | bool b => .ok (int (if b then -1 else 0))
  | int n => .ok (int (-n))
  | float (.finite neg m e) => .ok (float (.finite (!neg) m e))
  | float (.infinite neg) => .ok (float (.infinite (!neg)))
  | float .nan => .ok (float .nan)
  | undefined hint => .error (undefinedError hint)
  | v => .error (.mismatch s!"bad operand type for unary -: {Text.quote v.typeName}")

/-- A number under a plus sign. -/
def plus : Datum → Except Error Datum
  | held _ v => plus v
  | bool b => .ok (int (if b then 1 else 0))
  | int n => .ok (int n)
  | float x => .ok (float x)
  | undefined hint => .error (undefinedError hint)
  | v => .error (.mismatch s!"bad operand type for unary +: {Text.quote v.typeName}")

/-- The texts of values joined; where printing escapes, a safe part makes the result safe and
the plain parts are escaped. -/
def join (escapes : Bool) (parts : List Datum) : Except Error Datum := do
  let texts ← parts.mapM text
  if escapes && parts.any (· matches safe _) then
    let pieces := (parts.zip texts).map fun (p, t) => if p matches safe _ then t else Html.escape t
    return safe (String.join pieces)
  else return str (String.join texts)

/-- What printing a value writes: its text, escaped where printing escapes unless it is safe. -/
def printed (escapes : Bool) (v : Datum) : Except Error String := do
  let t ← text v
  return if escapes && !(v matches safe _) then Html.escape t else t

/-! ## Attributes and items -/

/-- The methods of dictionaries. -/
def dictMethods : List String :=
  ["clear", "copy", "fromkeys", "get", "items", "keys", "pop", "popitem", "setdefault",
   "update", "values"]

/-- The methods of texts. -/
def textMethods : List String :=
  ["capitalize", "casefold", "center", "count", "encode", "endswith", "expandtabs", "find",
   "format", "format_map", "index", "isalnum", "isalpha", "isascii", "isdecimal", "isdigit",
   "isidentifier", "islower", "isnumeric", "isprintable", "isspace", "istitle", "isupper",
   "join", "ljust", "lower", "lstrip", "maketrans", "partition", "removeprefix",
   "removesuffix", "replace", "rfind", "rindex", "rjust", "rpartition", "rsplit", "rstrip",
   "split", "splitlines", "startswith", "strip", "swapcase", "title", "translate", "upper",
   "zfill"]

/-- The methods safe text has beyond those of texts. -/
def safeMethods : List String := ["escape", "striptags", "unescape"]

/-- The methods of lists. -/
def listMethods : List String :=
  ["append", "clear", "copy", "count", "extend", "index", "insert", "pop", "remove",
   "reverse", "sort"]

/-- The undefined value for a missing attribute. -/
def missingAttr (v : Datum) (name : String) : Datum :=
  undefined (Text.quote (v.typeName ++ " object") ++ " has no attribute " ++ Text.quote name)

/-- Whether objects of a class are data models of the library, with their methods for dumping
their fields. -/
def isModel (cls : String) : Bool :=
  !(cls == "LoopContext" || cls == "Namespace" || cls == "Cycler" || cls == "Joiner")

/-- The methods of integers and truth values. -/
def intMethods : List String :=
  ["as_integer_ratio", "bit_count", "bit_length", "conjugate", "to_bytes"]

/-- The methods of floats. -/
def floatMethods : List String := ["as_integer_ratio", "conjugate", "hex", "is_integer"]

/-- The methods of bytes. -/
def bytesMethods : List String := ["decode", "hex"]

/-- The special methods every plain value has: its texts, its format, and the comparisons. -/
def basicSpecials : List String :=
  ["__str__", "__repr__", "__format__", "__eq__", "__ne__", "__lt__", "__le__", "__gt__",
   "__ge__"]

/-- The special methods of numbers beyond the basic ones. -/
def numberSpecials : List String :=
  ["__add__", "__sub__", "__mul__", "__truediv__", "__floordiv__", "__mod__", "__pow__",
   "__radd__", "__rsub__", "__rmul__", "__rtruediv__", "__rfloordiv__", "__rmod__", "__rpow__",
   "__neg__", "__pos__", "__abs__", "__bool__", "__int__", "__float__"]

/-- The special methods of containers and texts beyond the basic ones. -/
def sizedSpecials : List String := ["__len__", "__contains__", "__getitem__"]

/-- The special methods a value answers to. -/
def specialNames : Datum → List String
  | held _ v => specialNames v
  | none => basicSpecials ++ ["__bool__"]
  | bool _ | int _ => basicSpecials ++ numberSpecials ++ ["__index__", "__invert__"]
  | float _ => basicSpecials ++ numberSpecials
  | str _ => basicSpecials ++ sizedSpecials ++ ["__add__", "__mul__", "__rmul__", "__mod__"]
  | safe _ =>
    basicSpecials ++ sizedSpecials ++ ["__add__", "__radd__", "__mul__", "__rmul__", "__mod__"]
  | list _ | tuple _ => basicSpecials ++ sizedSpecials ++ ["__add__", "__mul__", "__rmul__"]
  | bytes _ => basicSpecials ++ sizedSpecials
  | dict _ | range .. => basicSpecials ++ sizedSpecials
  | _ => []

/-- The attributes of numbers: an integer or truth value is its own real part and numerator,
with imaginary part 0 and denominator 1; a float is its own real part, with imaginary part 0.0. -/
def numberAttr (v : Datum) (name : String) : Option Datum :=
  match v, name with
  | int n, "real" | int n, "numerator" => some (int n)
  | bool b, "real" | bool b, "numerator" => some (int (if b then 1 else 0))
  | int _, "imag" | bool _, "imag" => some (int 0)
  | int _, "denominator" | bool _, "denominator" => some (int 1)
  | float x, "real" => some (float x)
  | float _, "imag" => some (float (.finite false 0 Binary64.minExp))
  | int _, n | bool _, n => if intMethods.contains n then some (method v n) else Option.none
  | float _, n => if floatMethods.contains n then some (method v n) else Option.none
  | _, _ => Option.none

/-- The attribute of a value that its kind gives it, without looking for items. -/
def ownAttr (v : Datum) (name : String) : Except Error (Option Datum) :=
  let v := v.bare
  match v with
  | undefined hint => .error (undefinedError hint)
  | int _ | bool _ | float _ => .ok (numberAttr v name)
  | bytes _ => .ok (if bytesMethods.contains name then some (method v name) else Option.none)
  | classNamed n =>
    .ok (if name == "__name__" || name == "__qualname__" then some (str n)
      else if name == "__module__" then some (str (classModule n)) else Option.none)
  | dict _ => .ok (if dictMethods.contains name then some (method v name) else Option.none)
  | str _ => .ok (if textMethods.contains name then some (method v name) else Option.none)
  | safe _ =>
    .ok (if textMethods.contains name || safeMethods.contains name then some (method v name)
      else Option.none)
  | list _ => .ok (if listMethods.contains name then some (method v name) else Option.none)
  | tuple _ =>
    .ok (if name == "count" || name == "index" then some (method v name) else Option.none)
  | record cls fields props =>
    match fields.lookup name, props.lookup name with
    | some x, _ => .ok (some x)
    | _, some x => .ok (some x)
    | _, _ =>
      .ok (if cls == "LoopContext" && (name == "cycle" || name == "changed") then some (method v name)
        else if isModel cls && (name == "model_dump" || name == "model_dump_json") then
          some (method v name)
        else Option.none)
  | module _ members _ => .ok (members.lookup name)
  | group g members =>
    .ok (if name == "grouper" then some g else if name == "list" then some (list members)
      else if name == "count" || name == "index" then some (method (tuple [g, list members]) name)
      else Option.none)
  | macroFn m _ =>
    .ok (if name == "name" then some (str m.name)
      else if name == "arguments" then some (tuple (m.params.map fun p => str p.1))
      else Option.none)
  | _ => .ok Option.none

/-- The attribute of a value with this name, without looking for items: its class, its special
methods, and the attributes of its kind. -/
def attrOnly (v : Datum) (name : String) : Except Error (Option Datum) :=
  match v.bare with
  | undefined hint => .error (undefinedError hint)
  | v =>
    if name == "__class__" then .ok (some (classNamed v.typeName))
    else if (specialNames v).contains name then .ok (some (method v name))
    else ownAttr v name

/-- The index into a sequence of a given length that an integer key names, counting from the
end for a negative key. -/
def position (len : Nat) (k : Int) : Option Nat :=
  let i := if k < 0 then k + len else k
  if 0 ≤ i && i < len then some i.toNat else Option.none

/-- The item of a value at a key, without looking for attributes. -/
def itemOnly (v key : Datum) : Except Error (Option Datum) :=
  let v := v.bare
  match v, key with
  | undefined hint, _ => .error (undefinedError hint)
  | dict ps, k => if (unhashable? k).isSome then .ok Option.none else lookup ps k
  | list xs, k | tuple xs, k =>
    match num? k, k with
    | some (.int i), _ => .ok ((position xs.length i).bind fun j => xs[j]?)
    | _, _ => .ok Option.none
  | str s, k | safe s, k =>
    match num? k with
    | some (.int i) =>
      .ok ((position s.length i).bind fun j => (s.toList[j]?).map fun c => sameKind v c.toString)
    | _ => .ok Option.none
  | bytes bs, k =>
    match num? k with
    | some (.int i) => .ok ((position bs.length i).bind fun j => (bs[j]?).map fun b => int b.toNat)
    | _ => .ok Option.none
  | group g members, k =>
    match num? k with
    | some (.int i) => .ok ((position 2 i).bind fun j => [g, list members][j]?)
    | _ => .ok Option.none
  | range a b st, k =>
    match num? k with
    | some (.int i) => .ok ((position (rangeLength a b st) i).map fun j => int (a + st * j))
    | _ => .ok Option.none
  | _, _ => .ok Option.none

/-- `v.name`: the attribute, or else the item of that name, or else undefined. -/
def getAttr (v : Datum) (name : String) : Except Error Datum := do
  match ← attrOnly v name with
  | some x => return x
  | Option.none =>
    match ← itemOnly v (str name) with
    | some x => return x
    | Option.none => return missingAttr v name

/-- `v[key]`: the item, or else for a text key the attribute of that name, or else
undefined. -/
def getItem (v key : Datum) : Except Error Datum := do
  match ← itemOnly v key with
  | some x => return x
  | Option.none =>
    match key with
    | str name | safe name =>
      match ← attrOnly v name with
      | some x => return x
      | Option.none => return missingAttr v name
    | _ => return undefined (Text.quote (v.typeName ++ " object") ++ " has no element")

/-- Where a slice of a sequence of a given length starts and stops, its bounds clamped to the
sequence: for a negative step, a stop of `-1` is before the first item. -/
def sliceBounds (len : Nat) (start stop : Option Int) (step : Int) : Int × Int :=
  let n : Int := len
  if 0 < step then
    let clamp (i : Int) : Int := if i < 0 then max (i + n) 0 else min i n
    ((start.map clamp).getD 0, (stop.map clamp).getD n)
  else
    let clamp (i : Int) : Int := if i < 0 then max (i + n) (-1) else min i (n - 1)
    ((start.map clamp).getD (n - 1), (stop.map clamp).getD (-1))

/-- The indices a slice takes from a sequence of a given length, in order. -/
def sliceIndices (len : Nat) (start stop : Option Int) (step : Int) : List Nat :=
  let (a, b) := sliceBounds len start stop step
  (List.range (rangeLength a b step)).map fun (k : Nat) => (a + Int.ofNat k * step).toNat

/-- An integer slice bound, none, or a bound that is not an integer. -/
def bound? : Option Datum → Option (Option Int)
  | Option.none => some Option.none
  | some none => some Option.none
  | some v => match num? v with
    | some (.int i) => some (some i)
    | _ => Option.none

/-- `v[start:stop:step]` on a list, tuple or text; any other value, or bounds that are not
integers, give undefined. A zero step fails. -/
def slice (v : Datum) (start stop step : Option Datum) : Except Error Datum :=
  let v := v.bare
  match v with
  | undefined hint => .error (undefinedError hint)
  | _ =>
    match bound? start, bound? stop, bound? step with
    | some a, some b, some c =>
      let st := c.getD 1
      if st == 0 then .error (.badValue "slice step cannot be zero")
      else
        let pick {α : Type} (xs : List α) : List α :=
          (sliceIndices xs.length a b st).filterMap fun i => xs[i]?
        match v with
        | list xs => .ok (list (pick xs))
        | tuple xs => .ok (tuple (pick xs))
        | str s => .ok (str (String.ofList (pick s.toList)))
        | safe s => .ok (safe (String.ofList (pick s.toList)))
        | bytes bs => .ok (bytes (pick bs))
        | range r0 r1 rs =>
          let (i, j) := sliceBounds (rangeLength r0 r1 rs) a b st
          .ok (range (r0 + rs * i) (r0 + rs * j) (rs * st))
        | _ => .ok (undefined "unsubscriptable value")
    | _, _, _ => .ok (undefined "slice indices must be integers")

end Datum
end Template
end UiTags
