import UiTags.Template.Arguments
import UiTags.Number.Parts
import UiTags.Text.Encoding

/-!
# Numbers, bytes and special methods

The methods of numbers: an integer gives its bit length, its count of set bits, its ratio and
its bytes; a float tells whether it is whole and gives its exact ratio and its hexadecimal
text. Both have `conjugate`, which gives the number itself (an integer for a truth value).

Encoding a text gives bytes, and bytes decode back into a text (see `Text.Encoding`); bytes
also give their hexadecimal text.

Special methods are the operations of the language under their method names: `__len__`,
`__contains__`, `__getitem__`, `__str__`, `__repr__`, `__format__`, the comparisons, the
arithmetic and the conversions. A comparison or arithmetic method given an operand of a kind
it does not take answers `NotImplemented`, as the operator does before it asks the other
operand: integers take integers and truth values, floats take every number, texts take texts,
and each container takes its own kind. Texts, lists and tuples refuse an operand they cannot
join or repeat by with the failure of the operator instead, and safe text, which escapes what
it is joined with, answers `NotImplemented` there too.
-/

namespace UiTags
namespace Template
namespace Datum

/-! ## Numbers -/

/-- The number of bits a natural number needs: none for zero. -/
def bitLength (n : Nat) : Nat := if n = 0 then 0 else Nat.log2 n + 1

/-- The number of ones in the binary digits of a natural number. -/
def setBits (n : Nat) : Nat :=
  if h : n = 0 then 0 else n % 2 + setBits (n / 2)
termination_by n
decreasing_by omega

/-- The bytes of an integer in `len` bytes, most significant first, in two's complement when
`signed`; none when it does not fit. -/
def intBytes (n : Int) (len : Nat) (signed : Bool) : Except Error (List UInt8) := do
  let room : Nat := Nat.pow 2 (8 * len)
  if n < 0 && !signed then throw (.overflow "can't convert negative int to unsigned")
  let fits : Bool :=
    if signed then -((room / 2 : Nat) : Int) ≤ n && n < ((room / 2 : Nat) : Int)
    else n < (room : Int)
  unless fits do throw (.overflow "int too big to convert")
  let v : Nat := (n % (room : Int)).toNat
  return (List.range len).reverse.map fun i => UInt8.ofNat (v / Nat.pow 256 i % 256)

/-- `to_bytes(length=1, byteorder='big', *, signed=False)` of an integer. -/
def toBytes (n : Int) (args : List Datum) (named : List (String × Datum)) :
    Except Error Datum := do
  if 2 < args.length then
    throw (.mismatch s!"to_bytes() takes at most 2 positional arguments ({args.length} given)")
  for (k, _) in named do
    unless ["length", "byteorder", "signed"].contains k do
      throw (.mismatch (Text.quote k ++ " is an invalid keyword argument for to_bytes()"))
  let given (i : Nat) (k : String) : Option Datum :=
    match args[i]? with
    | some a => some a
    | Option.none => named.lookup k
  let len ← match given 0 "length" with
    | some v => indexArg v
    | Option.none => pure 1
  let order ← match given 1 "byteorder" with
    | some (str s) | some (safe s) => pure s
    | some v =>
      throw (.mismatch ("to_bytes() argument 'byteorder' must be str, not " ++ v.typeName))
    | Option.none => pure "big"
  let signed ← match named.lookup "signed" with
    | some v => truthy v
    | Option.none => pure false
  unless order == "big" || order == "little" do
    throw (.badValue "byteorder must be either 'little' or 'big'")
  if len < 0 then throw (.badValue "length argument must be non-negative")
  let bs ← intBytes n len.toNat signed
  return bytes (if order == "big" then bs else bs.reverse)

/-- A method of an integer or truth value, given the integer it stands for. -/
def intMethod (n : Int) (name : String) (args : List Datum) (named : List (String × Datum)) :
    Except Error Datum := do
  match name with
  | "bit_length" => do
    let _ ← positional name 0 0 args named
    return int (bitLength n.natAbs)
  | "bit_count" => do
    let _ ← positional name 0 0 args named
    return int (setBits n.natAbs)
  | "conjugate" => do
    let _ ← positional name 0 0 args named
    return int n
  | "as_integer_ratio" => do
    let _ ← positional name 0 0 args named
    return tuple [int n, int 1]
  | "to_bytes" => toBytes n args named
  | _ => throw (.mismatch s!"the method {name} of integers is not supported")

/-- A method of a float. -/
def floatMethod (x : Binary64) (name : String) (args : List Datum)
    (named : List (String × Datum)) : Except Error Datum := do
  match name with
  | "is_integer" => do
    let _ ← positional name 0 0 args named
    return bool x.isWhole
  | "as_integer_ratio" => do
    let _ ← positional name 0 0 args named
    match x with
    | .nan => throw (.badValue "cannot convert NaN to integer ratio")
    | .infinite _ => throw (.overflow "cannot convert Infinity to integer ratio")
    | x =>
      let (p, q) := x.lowestTerms?.getD (0, 1)
      return tuple [int p, int q]
  | "hex" => do
    let _ ← positional name 0 0 args named
    return str x.hexText
  | "conjugate" => do
    let _ ← positional name 0 0 args named
    return float x
  | _ => throw (.mismatch s!"the method {name} of floats is not supported")

/-- The integer a number's `int()` gives: a float cut toward zero. -/
def wholePart (v : Datum) : Except Error Datum :=
  match v with
  | int n => .ok (int n)
  | bool b => .ok (int (if b then 1 else 0))
  | float .nan => .error (.badValue "cannot convert float NaN to integer")
  | float (.infinite _) => .error (.overflow "cannot convert float infinity to integer")
  | float x =>
    let (p, q) := x.lowestTerms?.getD (0, 1)
    .ok (int (Int.tdiv p q))
  | v => .error (.mismatch s!"int() argument must be a string, a bytes-like object or a real number, not {Text.quote v.typeName}")

/-- The float a number's `float()` gives: an integer rounded to the nearest float, failing
when it is too large for any. -/
def asFloat (v : Datum) : Except Error Datum :=
  match v with
  | float x => .ok (float x)
  | bool b => .ok (float (Binary64.ofFraction (if b then 1 else 0) 1))
  | int n =>
    match Binary64.ofFraction n 1 with
    | .infinite _ => .error (.overflow "int too large to convert to float")
    | x => .ok (float x)
  | v => .error (.mismatch s!"float() argument must be a string or a real number, not {Text.quote v.typeName}")

/-- The absolute value of a number. -/
def absolute (v : Datum) : Except Error Datum :=
  match v with
  | int n => .ok (int n.natAbs)
  | bool b => .ok (int (if b then 1 else 0))
  | float (.finite _ m e) => .ok (float (.finite false m e))
  | float (.infinite _) => .ok (float (.infinite false))
  | float .nan => .ok (float .nan)
  | v => .error (.mismatch s!"bad operand type for abs(): {Text.quote v.typeName}")

/-! ## Texts and bytes -/

/-- A failure to encode or decode as a failure of the template. -/
def codecFailure (e : Text.CodecError) : Error :=
  .raised e.className e.message

/-- A text argument of a codec method, by name for its failure. -/
def codecArg (method param : String) (v : Option Datum) (default : String) :
    Except Error String :=
  match v with
  | Option.none => .ok default
  | some (str s) | some (safe s) => .ok s
  | some v =>
    .error (.mismatch (method ++ "() argument " ++ Text.quote param ++ " must be str, not " ++
      v.typeName))

/-- The encoding and error handler a codec method is given, by position or by name. -/
def codecArgs (method : String) (args : List Datum) (named : List (String × Datum)) :
    Except Error (Text.Encoding × String) := do
  if 2 < args.length then
    throw (.mismatch s!"{method}() takes at most 2 arguments ({args.length} given)")
  for (k, _) in named do
    unless k == "encoding" || k == "errors" do
      throw (.mismatch (Text.quote k ++ " is an invalid keyword argument for " ++ method ++ "()"))
  let given (i : Nat) (k : String) : Option Datum :=
    match args[i]? with
    | some a => some a
    | Option.none => named.lookup k
  let encName ← codecArg method "encoding" (given 0 "encoding") "utf-8"
  let handler ← codecArg method "errors" (given 1 "errors") "strict"
  match Text.Encoding.ofName? encName with
  | some enc => return (enc, handler)
  | Option.none => throw (codecFailure (.unknownEncoding encName))

/-- `encode(encoding='utf-8', errors='strict')` of a text. -/
def encodeText (s : String) (args : List Datum) (named : List (String × Datum)) :
    Except Error Datum := do
  let (enc, handler) ← codecArgs "encode" args named
  match Text.encode enc handler s with
  | .ok bs => return bytes bs
  | .error e => throw (codecFailure e)

/-- A method of bytes: `decode` and `hex`. -/
def bytesMethod (bs : List UInt8) (name : String) (args : List Datum)
    (named : List (String × Datum)) : Except Error Datum := do
  match name with
  | "decode" => do
    let (enc, handler) ← codecArgs "decode" args named
    match Text.decode enc handler bs with
    | .ok s => return str s
    | .error e => throw (codecFailure e)
  | "hex" => do
    let _ ← positional name 0 0 args named
    return str (String.ofList (bs.flatMap fun b => Text.hexDigits 2 b.toNat))
  | _ => throw (.mismatch s!"the method {name} of bytes is not supported")

/-! ## Special methods -/

/-- Whether the comparison and arithmetic methods of a value take another value as operand. -/
def operandsTaken (self other : Datum) : Bool :=
  match self, other with
  | int _, int _ | int _, bool _ | bool _, int _ | bool _, bool _ => true
  | float _, int _ | float _, bool _ | float _, float _ => true
  | str _, str _ | str _, safe _ | safe _, str _ | safe _, safe _ => true
  | list _, list _ | tuple _, tuple _ | dict _, dict _ | range .., range .. => true
  | bytes _, bytes _ | none, none => true
  | _, _ => false

/-- The order of two byte sequences, byte by byte and then by length. -/
def bytesOrder : List UInt8 → List UInt8 → Ordering
  | [], [] => .eq
  | [], _ :: _ => .lt
  | _ :: _, [] => .gt
  | a :: as, b :: bs => if a < b then .lt else if b < a then .gt else bytesOrder as bs

/-- A comparison method: equality for operands it takes, order for those of a kind that has
one. -/
def compareSpecial (op : CompareOp) (self other : Datum) : Except Error Datum := do
  if !operandsTaken self other then return notImplemented
  match op, self, other with
  | .eq, _, _ => return bool (← equals self other)
  | .ne, _, _ => return bool !(← equals self other)
  | op, bytes xs, bytes ys => return bool (holds op (some (bytesOrder xs ys)))
  | op, _, _ =>
    match self with
    | dict _ | range .. | none => return notImplemented
    | _ => return bool (holds op (← order (opText op) self other))

/-- The failure of repeating a sequence by a value that is not an integer. -/
def countFailure (v : Datum) : Error :=
  .mismatch (Text.quote v.typeName ++ " object cannot be interpreted as an integer")

/-- An arithmetic method, its operands swapped for the reflected form (`__radd__` computes
`other + self`). -/
def arithSpecial (op : ArithOp) (swap : Bool) (self other : Datum) : Except Error Datum :=
  let (a, b) := if swap then (other, self) else (self, other)
  let count : Option Int := match other with
    | int n => some n
    | bool t => some (if t then 1 else 0)
    | _ => Option.none
  match self, op with
  | int _, _ | bool _, _ | float _, _ =>
    if operandsTaken self other then arith op a b else .ok notImplemented
  | str s, .add =>
    match other with
    | str t | safe t => .ok (str (s ++ t))
    | o => .error (.mismatch s!"can only concatenate str (not {Text.quote o.typeName}) to str")
  | safe s, .add =>
    match other, swap with
    | str t, false => .ok (safe (s ++ Html.escape t))
    | safe t, false => .ok (safe (s ++ t))
    | str t, true => .ok (safe (Html.escape t ++ s))
    | safe t, true => .ok (safe (t ++ s))
    | _, _ => .ok notImplemented
  | list xs, .add =>
    match other with
    | list ys => .ok (list (xs ++ ys))
    | o => .error (.mismatch s!"can only concatenate list (not {Text.quote o.typeName}) to list")
  | tuple xs, .add =>
    match other with
    | tuple ys => .ok (tuple (xs ++ ys))
    | o => .error (.mismatch s!"can only concatenate tuple (not {Text.quote o.typeName}) to tuple")
  | safe _, .mul =>
    match count with
    | some n => .ok ((repeatValue self n).getD self)
    | Option.none => .ok notImplemented
  | _, .mul =>
    match count with
    | some n => .ok ((repeatValue self n).getD self)
    | Option.none => .error (countFailure other)
  | _, .mod => operate .mod self other
  | _, _ => .ok notImplemented

/-- The arithmetic operator a special method name stands for, and whether it is the reflected
form. -/
def arithName? : String → Option (ArithOp × Bool)
  | "__add__" => some (.add, false)
  | "__sub__" => some (.sub, false)
  | "__mul__" => some (.mul, false)
  | "__truediv__" => some (.div, false)
  | "__floordiv__" => some (.floorDiv, false)
  | "__mod__" => some (.mod, false)
  | "__pow__" => some (.pow, false)
  | "__radd__" => some (.add, true)
  | "__rsub__" => some (.sub, true)
  | "__rmul__" => some (.mul, true)
  | "__rtruediv__" => some (.div, true)
  | "__rfloordiv__" => some (.floorDiv, true)
  | "__rmod__" => some (.mod, true)
  | "__rpow__" => some (.pow, true)
  | _ => Option.none

/-- The comparison a special method name stands for. -/
def compareName? : String → Option CompareOp
  | "__eq__" => some .eq
  | "__ne__" => some .ne
  | "__lt__" => some .lt
  | "__le__" => some .le
  | "__gt__" => some .gt
  | "__ge__" => some .ge
  | _ => Option.none

/-- The item `__getitem__` gives: the item at an integer position or a dictionary key, failing
where there is none. -/
def strictItem (v key : Datum) : Except Error Datum := do
  match v with
  | dict ps =>
    match ← lookup ps key with
    | some x => return x
    | Option.none => throw (.noKey (← reprText key))
  | _ =>
    let (what, kind) : String × String := match v with
      | str _ | safe _ => ("string index", "string")
      | list _ => ("list index", "list")
      | tuple _ => ("tuple index", "tuple")
      | range .. => ("range object index", "range")
      | _ => ("index", "byte")
    match key with
    | int _ | bool _ =>
      match ← itemOnly v key with
      | some x => return x
      | Option.none => throw (.noIndex (what ++ " out of range"))
    | k =>
      if v matches str _ || v matches safe _ then
        throw (.mismatch ("string indices must be integers, not " ++ Text.quote k.typeName))
      else throw (.mismatch (kind ++ " indices must be integers or slices, not " ++ k.typeName))

/-- A special method of a value with no operand. -/
def unarySpecial (self : Datum) (name : String) : Except Error Datum := do
  match name with
  | "__str__" => return str (← text self)
  | "__repr__" => return str (← reprText self)
  | "__len__" => return int (← size self)
  | "__bool__" => return bool (← truthy self)
  | "__neg__" => negate self
  | "__pos__" => plus self
  | "__abs__" => absolute self
  | "__int__" | "__index__" => wholePart self
  | "__float__" => asFloat self
  | "__invert__" =>
    match ← wholePart self with
    | int n => return int (-(n + 1))
    | v => return v
  | _ => throw (.mismatch s!"the method {name} of {self.typeName} is not supported")

/-- A special method of a value with one operand. -/
def binarySpecial (self : Datum) (name : String) (other : Datum) : Except Error Datum := do
  match compareName? name, arithName? name with
  | some op, _ => compareSpecial op self other
  | _, some (op, swap) => arithSpecial op swap self other
  | Option.none, Option.none =>
    match name with
    | "__format__" =>
      match other with
      | str s | safe s => return str (← formatWith self s.toList)
      | v => throw (.mismatch ("__format__() argument must be str, not " ++ v.typeName))
    | "__contains__" => return bool (← holdsItem self other)
    | "__getitem__" => strictItem self other
    | _ => throw (.mismatch s!"the method {name} of {self.typeName} is not supported")

/-- Whether a special method takes one operand. -/
def takesOperand (name : String) : Bool :=
  (compareName? name).isSome || (arithName? name).isSome ||
    ["__format__", "__contains__", "__getitem__"].contains name

/-- A special method of a value, called with these arguments. -/
def specialMethod (self : Datum) (name : String) (args : List Datum)
    (named : List (String × Datum)) : Except Error Datum := do
  if takesOperand name then
    let a ← positional name 1 1 args named
    binarySpecial self.bare name (a.headD none).bare
  else
    let _ ← positional name 0 0 args named
    unarySpecial self.bare name

end Datum
end Template
end UiTags
