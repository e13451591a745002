import UiTags.Template.Syntax
import UiTags.Template.Error
import UiTags.Template.Depth
import UiTags.Value
import UiTags.Number.Shortest
import UiTags.Text.Quoted
import UiTags.Text.Integer

/-!
# Template values

The values a template computes with: none, truth values, integers, floats, texts (plain, or
safe to print without escaping), lists, tuples, dictionaries in insertion order, ranges of
integers, views of a dictionary's keys, values or items, objects with named attributes, macros,
imported templates, methods waiting for their call, functions of the language, references to
the mutable objects the interpreter keeps (lists, dictionaries, namespaces, cyclers, joiners and
loops) and to blocks, and the undefined value that a missing name or attribute gives.

The values here are plain data: a reference is only a number, which the interpreter resolves to
the object's current contents before a value reaches the functions of this module.

The undefined value fails as soon as it is used: printed, tested for truth, compared, iterated
or taken apart. Only passing it on and the tests for definedness see it safely.

A value's text is what printing writes: a text as it is, a number as it reads back, none as
`None`, and containers as their display with each item written as it reads back (texts in
quotes). Truth is false for none, zero, empty texts and empty containers and true otherwise.
Numbers compare by value whatever their kind (a truth value counts as 0 or 1), texts by code
points, lists and tuples item by item; other kinds do not order.
-/

namespace UiTags
namespace Template

/-- A macro as defined: its name, parameters with defaults, body, whether the template that
defines it escapes printed values, and whether its body uses the extra named arguments
(`kwargs`), the extra positional ones (`varargs`) or the body of a `call` section
(`caller`). -/
structure MacroDef where
  name : String
  params : List (String × Option Expr)
  body : List Stmt
  escapes : Bool
  catchKwargs : Bool := false
  catchVarargs : Bool := false
  usesCaller : Bool := false
  deriving Inhabited

/-- A value as a template sees it. -/
inductive Datum where
  | none
  | bool (b : Bool)
  | int (n : Int)
  | float (x : Binary64)
  | str (s : String)
  /-- Text that is printed without escaping. -/
  | safe (s : String)
  | list (items : List Datum)
  | tuple (items : List Datum)
  /-- A dictionary, its pairs in insertion order. -/
  | dict (pairs : List (Datum × Datum))
  /-- An object: its class, the fields it shows, and further read-only attributes. -/
  | record (cls : String) (fields : List (String × Datum)) (props : List (String × Datum))
  /-- The integers from `start` towards `stop` (excluded) by `step`. -/
  | range (start stop step : Int)
  /-- A view of a dictionary: its keys, values or items (`kind` names which). -/
  | view (kind : String) (items : List Datum)
  /-- An iterator of the class `kind` that gives these items, or fails with `fault` when it is
  iterated. -/
  | gen (kind : String) (items : List Datum) (fault : Option Error)
  /-- A group of items sharing a key, which reads as the pair of the key and the items. -/
  | group (grouper : Datum) (members : List Datum)
  /-- A macro, with the frame of names it sees besides its parameters. -/
  | macroFn (m : MacroDef) (closure : Nat)
  /-- An imported template: the names it exports and what it printed. -/
  | module (name : String) (members : List (String × Datum)) (output : String)
  /-- A method of a value, waiting for its call. -/
  | method (self : Datum) (name : String)
  /-- A function of the template language. -/
  | builtin (name : String)
  /-- A mutable object the interpreter keeps, by its number. -/
  | ref (id : Nat)
  /-- The block of this name at this depth of the chain of a rendering's blocks. -/
  | blockRef (name : String) (level : Nat) (ctx : Nat)
  /-- The template being rendered, whose blocks are its attributes. -/
  | selfRef (ctx : Nat) (name : String)
  /-- A name, attribute or item that does not exist, with the reason. -/
  | undefined (hint : String)
  /-- A sequence of bytes, such as encoding a text gives. -/
  | bytes (data : List UInt8)
  /-- The class of values of this name. -/
  | classNamed (name : String)
  /-- What a special method answers for an operand it does not handle. -/
  | notImplemented
  /-- A mutable object of the interpreter as it stood when it was read: its number, which
  binding the value to a name keeps so that the object stays one object, and its contents. -/
  | held (id : Nat) (v : Datum)
  deriving Inhabited

/-- A number, as arithmetic sees it. -/
inductive Num where
  | int (n : Int)
  | float (x : Binary64)

namespace Binary64

/-- A finite value as a fraction: numerator and positive denominator. -/
def ratio? : Binary64 → Option (Int × Nat)
  | .finite neg m e =>
    let n : Int := if neg then -(m : Int) else m
    if 0 ≤ e then some (n * Int.pow 2 e.toNat, 1) else some (n, Nat.pow 2 (-e).toNat)
  | _ => none

/-- The value nearest to a fraction with a positive denominator. -/
def ofFraction (n : Int) (d : Nat) : UiTags.Binary64 :=
  UiTags.Binary64.ofRatio (n < 0) n.natAbs d

end Binary64

namespace Num

/-- The order of two numbers, or none when one is not a number. -/
def order : Num → Num → Option Ordering
  | .int a, .int b => some (compare a b)
  | a, b =>
    let ratio : Num → Option (Option (Int × Nat))
      | .int n => some (some (n, 1))
      | .float x => match x with
        | .nan => none
        | .infinite _ => some none
        | f => some (Binary64.ratio? f)
    match a, b, ratio a, ratio b with
    | _, _, none, _ | _, _, _, none => none
    | _, _, some (some (p, q)), some (some (r, s)) => some (compare (p * s) (r * q))
    | .float (.infinite n1), .float (.infinite n2), _, _ =>
      some (if n1 == n2 then .eq else if n1 then .lt else .gt)
    | .float (.infinite n1), _, _, _ => some (if n1 then .lt else .gt)
    | _, .float (.infinite n2), _, _ => some (if n2 then .gt else .lt)
    | _, _, _, _ => none

end Num

namespace Datum

/-- A value without the number of the object it was read from: its contents. -/
def bare : Datum → Datum
  | held _ v => bare v
  | v => v

/-- The number a value is, a truth value counting as 0 or 1. -/
def num? : Datum → Option Num
  | held _ v => num? v
  | bool b => some (.int (if b then 1 else 0))
  | int n => some (.int n)
  | float x => some (.float x)
  | _ => Option.none

mutual

/-- A value read from data: null as none, objects as dictionaries with text keys. -/
def ofValue : Value → Datum
  | .null => none
  | .bool b => bool b
  | .int n => int n
  | .float x => float x
  | .str s => str s
  | .list items => list (ofValues items)
  | .obj fields => dict (ofFields fields)

/-- Values read from data. -/
def ofValues : List Value → List Datum
  | [] => []
  | v :: vs => ofValue v :: ofValues vs

/-- Object fields read from data, as dictionary pairs. -/
def ofFields : List (String × Value) → List (Datum × Datum)
  | [] => []
  | (k, v) :: rest => (str k, ofValue v) :: ofFields rest

end

/-- The class name of a value, as failures name it. -/
def typeName : Datum → String
  | held _ v => typeName v
  | none => "NoneType"
  | bool _ => "bool"
  | int _ => "int"
  | float _ => "float"
  | str _ => "str"
  | safe _ => "Markup"
  | list _ => "list"
  | tuple _ => "tuple"
  | dict _ => "dict"
  | record cls _ _ => cls
  | range .. => "range"
  | view kind _ => kind
  | gen kind _ _ => kind
  | group .. => "_GroupTuple"
  | macroFn .. => "Macro"
  | module .. => "TemplateModule"
  | method .. => "method"
  | builtin _ => "builtin_function_or_method"
  | ref _ => "object"
  | blockRef .. => "BlockReference"
  | selfRef .. => "TemplateReference"
  | undefined _ => "StrictUndefined"
  | bytes _ => "bytes"
  | classNamed _ => "type"
  | notImplemented => "NotImplementedType"

/-- The module that defines the class of this name, for the classes a template meets. -/
def classModule (name : String) : String :=
  match name with
  | "Markup" => "markupsafe"
  | "LoopContext" | "Macro" | "StrictUndefined" | "BlockReference" | "TemplateReference" =>
    "jinja2.runtime"
  | "Namespace" | "Cycler" | "Joiner" => "jinja2.utils"
  | "TemplateModule" => "jinja2.environment"
  | "_GroupTuple" => "jinja2.filters"
  | _ => "builtins"

/-- How a class reads back: its name, after its module unless that is the built-in one. -/
def classRepr (name : String) : String :=
  let m := classModule name
  "<class '" ++ (if m == "builtins" then name else m ++ "." ++ name) ++ "'>"

/-- How bytes read back: `b` and the bytes in quotes, printable ASCII as itself and the rest
as escapes. -/
def bytesText (bs : List UInt8) : String :=
  let q : UInt8 := if bs.contains 39 && !bs.contains 34 then 34 else 39
  let hex (n : Nat) : Char := (Nat.toDigits 16 n).headD '0'
  let one (b : UInt8) : List Char :=
    if b == q || b == 92 then ['\\', Char.ofNat b.toNat]
    else if b == 9 then ['\\', 't']
    else if b == 10 then ['\\', 'n']
    else if b == 13 then ['\\', 'r']
    else if b < 32 || 127 ≤ b then ['\\', 'x', hex (b.toNat / 16), hex (b.toNat % 16)]
    else [Char.ofNat b.toNat]
  String.ofList ('b' :: Char.ofNat q.toNat :: bs.flatMap one ++ [Char.ofNat q.toNat])

/-- The failure of using an undefined value. -/
def undefinedError (hint : String) : Error := .undefined hint

/-- The text of the field of a loop with this name. -/
def fieldText (fields : List (String × Datum)) (name : String) : String :=
  match fields.lookup name with
  | some (int n) => toString n
  | _ => "?"

/-- The failure of writing an integer of more than `Text.digitLimit` digits. -/
def intTextFailure : Error :=
  .badValue s!"Exceeds the limit ({Text.digitLimit} digits) for integer string conversion; use sys.set_int_max_str_digits() to increase the limit"

/-- The decimal text of an integer of at most `Text.digitLimit` digits. -/
def intText (n : Int) : Except Error String :=
  if Text.tooManyDigits n.natAbs then .error intTextFailure else .ok (toString n)

mutual

/-- How a value reads back within a room of nested calls: texts in quotes, containers with
their items read back. Reading a value back takes one call, and the values inside it are read
one call deeper; a value read with no room left fails as too deep. -/
def reprWithin : Nat → Datum → Except Error String
  | room, held _ v => reprWithin room v
  | 0, _ => .error .tooDeep
  | room + 1, v => reprOne room v

/-- How a value reads back, its items read within the room given. -/
def reprOne (room : Nat) : Datum → Except Error String
  | held _ v => reprWithin room v
  | none => .ok "None"
  | bool b => .ok (if b then "True" else "False")
  | int n => intText n
  | float x => .ok x.text
  | str s => .ok (Text.quote s)
  | safe s => .ok ("Markup(" ++ Text.quote s ++ ")")
  | list items => do return "[" ++ ", ".intercalate (← reprItems room items) ++ "]"
  | tuple [x] => do return "(" ++ (← reprWithin room x) ++ ",)"
  | tuple items => do return "(" ++ ", ".intercalate (← reprItems room items) ++ ")"
  | dict pairs => do return "\x7b" ++ ", ".intercalate (← reprPairs room pairs) ++ "\x7d"
  | record cls fields _ =>
    if cls == "LoopContext" then
      .ok ("<LoopContext " ++ fieldText fields "index" ++ "/" ++ fieldText fields "length" ++ ">")
    else if cls == "Namespace" then do
      return "<Namespace \x7b" ++ ", ".intercalate (← reprNames room fields) ++ "\x7d>"
    else do return cls ++ "(" ++ ", ".intercalate (← reprFields room fields) ++ ")"
  | range a b s =>
    .ok ("range(" ++ toString a ++ ", " ++ toString b ++ (if s == 1 then "" else ", " ++ toString s) ++ ")")
  | view kind items => do return kind ++ "([" ++ ", ".intercalate (← reprItems room items) ++ "])"
  | gen kind _ _ => .ok ("<" ++ kind ++ " object at 0x7f3c2a1b0e40>")
  | group g members => do return "(" ++ (← reprWithin room g) ++ ", [" ++ ", ".intercalate (← reprItems room members) ++ "])"
  | macroFn m _ => .ok ("<Macro " ++ Text.quote m.name ++ ">")
  | module name _ _ => .ok ("<TemplateModule " ++ Text.quote name ++ ">")
  | method _ name => .ok ("<built-in method " ++ name ++ ">")
  | builtin name => .ok ("<built-in function " ++ name ++ ">")
  | ref id => .ok ("<object " ++ toString id ++ ">")
  | blockRef name _ _ => .ok ("<BlockReference " ++ Text.quote name ++ ">")
  | selfRef _ name => .ok ("<TemplateReference " ++ Text.quote name ++ ">")
  | undefined _ => .ok "Undefined"
  | bytes bs => .ok (bytesText bs)
  | classNamed name => .ok (classRepr name)
  | notImplemented => .ok "NotImplemented"

/-- The read-back texts of items. -/
def reprItems (room : Nat) : List Datum → Except Error (List String)
  | [] => .ok []
  | x :: xs => do return (← reprWithin room x) :: (← reprItems room xs)

/-- The read-back texts of dictionary pairs, `key: value`. -/
def reprPairs (room : Nat) : List (Datum × Datum) → Except Error (List String)
  | [] => .ok []
  | (k, v) :: rest => do
    return ((← reprWithin room k) ++ ": " ++ (← reprWithin room v)) :: (← reprPairs room rest)

/-- The read-back texts of object fields, `name=value`. -/
def reprFields (room : Nat) : List (String × Datum) → Except Error (List String)
  | [] => .ok []
  | (k, v) :: rest => do return (k ++ "=" ++ (← reprWithin room v)) :: (← reprFields room rest)

/-- The read-back texts of named values as dictionary pairs, `'name': value`. -/
def reprNames (room : Nat) : List (String × Datum) → Except Error (List String)
  | [] => .ok []
  | (k, v) :: rest => do
    return (Text.quote k ++ ": " ++ (← reprWithin room v)) :: (← reprNames room rest)

end

/-- How a value reads back, within the room printing has. -/
def reprText (v : Datum) : Except Error String := reprWithin Depth.printRoom v

/-- The text of a value, as printing writes it. -/
def text : Datum → Except Error String
  | held _ v => text v
  | str s => .ok s
  | safe s => .ok s
  | record cls fields props =>
    if cls == "LoopContext" || cls == "Namespace" then reprText (record cls fields props)
    else do return " ".intercalate (← reprFields Depth.printRoom fields)
  | module _ _ out => .ok out
  | undefined hint => .error (undefinedError hint)
  | v => reprText v

/-- A text keeping the kind of the value it came from: safe stays safe. -/
def sameKind (v : Datum) (s : String) : Datum :=
  if v matches safe _ then safe s else str s

/-- The number of integers a range goes through. -/
def rangeLength (start stop step : Int) : Nat :=
  if 0 < step then ((stop - start + step - 1) / step).toNat
  else if step < 0 then ((start - stop - step - 1) / (-step)).toNat
  else 0

/-- The integers a range goes through. -/
def rangeItems (start stop step : Int) : List Int :=
  (List.range (rangeLength start stop step)).map fun (i : Nat) => start + step * (i : Int)

/-- Whether a value counts as true. -/
def truthy : Datum → Except Error Bool
  | held _ v => truthy v
  | none => .ok false
  | bool b => .ok b
  | int n => .ok (n != 0)
  | float x => .ok (!x.isZero)
  | str s => .ok (!s.isEmpty)
  | safe s => .ok (!s.isEmpty)
  | list items => .ok (!items.isEmpty)
  | tuple items => .ok (!items.isEmpty)
  | dict pairs => .ok (!pairs.isEmpty)
  | range a b s => .ok (rangeLength a b s != 0)
  | view _ items => .ok (!items.isEmpty)
  | bytes bs => .ok (!bs.isEmpty)
  | undefined hint => .error (undefinedError hint)
  | _ => .ok true

/-- Whether a value is undefined. -/
def isUndefined : Datum → Bool
  | undefined _ => true
  | _ => false

/-- The text a value holds, plain or safe. -/
def text? : Datum → Option String
  | held _ v => text? v
  | str s => some s
  | safe s => some s
  | _ => Option.none

/-- Whether two values are one object of the interpreter, read twice. -/
def sameObject : Datum → Datum → Bool
  | held i _, held j _ => i == j
  | _, _ => false

mutual

/-- Whether two values are equal within a room of nested comparisons: numbers by value, texts
by content whether safe or not, lists and tuples item by item, dictionaries by their pairs in
any order, objects of one class by their fields. Each comparison takes one call, and the items
compared inside it are one call deeper; a comparison with no room left fails as too deep. Using
an undefined value fails. -/
def equalsWithin : Nat → Datum → Datum → Except Error Bool
  | room, held _ a, b => equalsWithin room a b
  | room, a, held _ b => equalsWithin room a b
  | 0, _, _ => .error .tooDeep
  | room + 1, a, b => equalsOne room a b

/-- Whether two values are equal, the values inside them compared within the room given. -/
def equalsOne (room : Nat) : Datum → Datum → Except Error Bool
  | held _ a, b => equalsWithin room a b
  | a, held _ b => equalsWithin room a b
  | undefined hint, _ => .error (undefinedError hint)
  | _, undefined hint => .error (undefinedError hint)
  | none, none => .ok true
  | list xs, list ys => itemsEqual room xs ys
  | tuple xs, tuple ys => itemsEqual room xs ys
  | range a b s, range c d t =>
    let n := rangeLength a b s
    .ok (n == rangeLength c d t && (n == 0 || (a == c && (n == 1 || s == t))))
  | dict ps, dict qs => if ps.length != qs.length then .ok false else pairsWithin room ps qs
  | record c fs _, record d gs _ => if c != d then .ok false else fieldsEqual room fs gs
  | bytes xs, bytes ys => .ok (xs == ys)
  | classNamed a, classNamed b => .ok (a == b)
  | notImplemented, notImplemented => .ok true
  | a, b =>
    match num? a, num? b, text? a, text? b with
    | some x, some y, _, _ => .ok (Num.order x y == some .eq)
    | _, _, some s, some t => .ok (s == t)
    | _, _, _, _ => .ok false

/-- Whether two lists of items are equal item by item; an object is equal to itself without
looking inside it. -/
def itemsEqual (room : Nat) : List Datum → List Datum → Except Error Bool
  | [], [] => .ok true
  | x :: xs, y :: ys => do
    if sameObject x y then itemsEqual room xs ys
    else if ← equalsWithin room x y then itemsEqual room xs ys else return false
  | _, _ => .ok false

/-- Whether every pair of the first dictionary has its key in the second with an equal
value. -/
def pairsWithin (room : Nat) : List (Datum × Datum) → List (Datum × Datum) → Except Error Bool
  | [], _ => .ok true
  | (k, v) :: rest, qs => do
    match ← valueAt room k qs with
    | some w =>
      if sameObject v w || (← equalsWithin room v w) then pairsWithin room rest qs
      else return false
    | Option.none => return false

/-- The value at a key among dictionary pairs. -/
def valueAt (room : Nat) : Datum → List (Datum × Datum) → Except Error (Option Datum)
  | _, [] => .ok Option.none
  | k, (k', v) :: rest => do
    if ← equalsWithin room k k' then return some v else valueAt room k rest

/-- Whether two field lists are equal, name by name. -/
def fieldsEqual (room : Nat) : List (String × Datum) → List (String × Datum) → Except Error Bool
  | [], [] => .ok true
  | (a, x) :: xs, (b, y) :: ys => do
    if a == b && (← equalsWithin room x y) then fieldsEqual room xs ys else return false
  | _, _ => .ok false

end

/-- Whether two values are equal, within the room comparing has. -/
def equals (a b : Datum) : Except Error Bool := equalsWithin Depth.compareRoom a b

/-- The class of the first part of a value that cannot be a dictionary key, if any: lists,
dictionaries, the key and item sets of a dictionary, and tuples (or groups) holding one. -/
def unhashable? : Datum → Option String
  | held _ v => unhashable? v
  | list _ => some "list"
  | dict _ => some "dict"
  | view kind _ => if kind == "dict_values" then Option.none else some kind
  | tuple xs => firstOf xs
  | group g _ => (unhashable? g).orElse fun _ => some "list"
  | _ => Option.none
where
  firstOf : List Datum → Option String
    | [] => Option.none
    | x :: xs => (unhashable? x).orElse fun _ => firstOf xs

/-- The failure of using a value that cannot be a key as one. -/
def unhashableError (cls : String) : Error := .mismatch s!"unhashable type: {Text.quote cls}"

/-- The value at a key of a dictionary, if it holds the key; a key that cannot be one fails. -/
def lookup (pairs : List (Datum × Datum)) (key : Datum) : Except Error (Option Datum) :=
  let rec go : List (Datum × Datum) → Except Error (Option Datum)
    | [] => .ok Option.none
    | (k, v) :: rest => do if ← equals key k then return some v else go rest
  match unhashable? key with
  | some c => .error (unhashableError c)
  | Option.none => go pairs

/-- A dictionary with a key set: its value replaced where the key is, else the pair added. -/
def insert (pairs : List (Datum × Datum)) (key value : Datum) :
    Except Error (List (Datum × Datum)) :=
  let rec go : List (Datum × Datum) → Except Error (List (Datum × Datum) × Bool)
    | [] => .ok ([], false)
    | (k, v) :: rest => do
      if ← equals key k then return ((k, value) :: rest, true)
      let (rest', found) ← go rest
      return ((k, v) :: rest', found)
  do
    if let some c := unhashable? key then throw (unhashableError c)
    let (updated, found) ← go pairs
    return if found then updated else pairs ++ [(key, value)]

/-- The failure of ordering two values of kinds that do not order. -/
def orderError (op : String) (a b : Datum) : Error :=
  .mismatch s!"{Text.quote op} not supported between instances of {Text.quote a.typeName} and {Text.quote b.typeName}"

mutual

/-- The order of two values: numbers by value (none when one is not a number), texts by code
points, lists and tuples by their first unequal items and then by length. -/
def order (op : String) : Datum → Datum → Except Error (Option Ordering)
  | held _ a, b => order op a b
  | a, held _ b => order op a b
  | undefined hint, _ => .error (undefinedError hint)
  | _, undefined hint => .error (undefinedError hint)
  | list xs, list ys => itemsOrder op xs ys
  | tuple xs, tuple ys => itemsOrder op xs ys
  | a, b =>
    match num? a, num? b, text? a, text? b with
    | some x, some y, _, _ => .ok (Num.order x y)
    | _, _, some s, some t => .ok (some (compare s t))
    | _, _, _, _ => .error (orderError op a b)

/-- The order of two item lists. -/
def itemsOrder (op : String) : List Datum → List Datum → Except Error (Option Ordering)
  | [], [] => .ok (some .eq)
  | [], _ :: _ => .ok (some .lt)
  | _ :: _, [] => .ok (some .gt)
  | x :: xs, y :: ys => do
    if ← equals x y then itemsOrder op xs ys else order op x y

end

/-- Whether a comparison holds, given the order of its operands. -/
def holds (op : CompareOp) (o : Option Ordering) : Bool :=
  match op, o with
  | .lt, some .lt => true
  | .le, some .lt | .le, some .eq => true
  | .gt, some .gt => true
  | .ge, some .gt | .ge, some .eq => true
  | _, _ => false

/-- The text of an operator for failures. -/
def opText : CompareOp → String
  | .eq => "=="
  | .ne => "!="
  | .lt => "<"
  | .le => "<="
  | .gt => ">"
  | .ge => ">="
  | .isIn => "in"
  | .notIn => "not in"

/-- The items a loop over a value goes through: list and tuple items, dictionary keys, the
characters of a text, and the fields of an object as name and value pairs. -/
def items : Datum → Except Error (List Datum)
  | held _ v => items v
  | list xs => .ok xs
  | tuple xs => .ok xs
  | dict ps => .ok (ps.map (·.1))
  | str s => .ok (s.toList.map fun c => str c.toString)
  | safe s => .ok (s.toList.map fun c => str c.toString)
  | record _ fields _ => .ok (fields.map fun (k, v) => tuple [str k, v])
  | range a b s =>
    if Nat.pow 2 63 ≤ rangeLength a b s then .error (.overflow "Python int too large to convert to C ssize_t")
    else .ok ((rangeItems a b s).map int)
  | view _ xs => .ok xs
  | gen _ xs fault => match fault with
    | some e => .error e
    | Option.none => .ok xs
  | group g members => .ok [g, list members]
  | bytes bs => .ok (bs.map fun b => int b.toNat)
  | undefined hint => .error (undefinedError hint)
  | v => .error (.mismatch s!"{Text.quote v.typeName} object is not iterable")

/-- Whether a text occurs in another. -/
def occursIn (part : List Char) : List Char → Bool
  | [] => part.isEmpty
  | c :: rest => part.isPrefixOf (c :: rest) || occursIn part rest

/-- Whether a container holds an item: a text as part of a text, an item of a list or tuple, a
key of a dictionary. -/
def holdsItem (container item : Datum) : Except Error Bool :=
  match container.bare, item with
  | undefined hint, _ => .error (undefinedError hint)
  | _, undefined hint => .error (undefinedError hint)
  | str s, x | safe s, x =>
    match text? x with
    | some t => .ok (occursIn t.toList s.toList)
    | Option.none =>
      .error (.mismatch (Text.quote "in <string>" ++ " requires string as left operand, not " ++ x.typeName))
  | dict ps, x => do return (← lookup ps x).isSome
  | range a b st, x =>
    let within (n : Int) : Bool :=
      let k := rangeLength a b st
      k != 0 && (n - a) % st == 0 && 0 ≤ (n - a) / st && (n - a) / st < k
    match x with
    | int n => .ok (within n)
    | bool t => .ok (within (if t then 1 else 0))
    | float f =>
      match Binary64.ratio? f with
      | some (n, d) => .ok (n % d == 0 && within (n / d))
      | Option.none => .ok false
    | _ => .ok false
  | c, x => do
    let xs ← items c
    let rec anyEqual : List Datum → Except Error Bool
      | [] => .ok false
      | y :: ys => do if sameObject x y || (← equals x y) then return true else anyEqual ys
    anyEqual xs

/-- The number of items of a container or characters of a text. -/
def size : Datum → Except Error Nat
  | held _ v => size v
  | list xs => .ok xs.length
  | tuple xs => .ok xs.length
  | dict ps => .ok ps.length
  | str s => .ok s.length
  | safe s => .ok s.length
  | range a b s =>
    let n := rangeLength a b s
    if Nat.pow 2 63 ≤ n then .error (.overflow "Python int too large to convert to C ssize_t")
    else .ok n
  | view _ xs => .ok xs.length
  | group .. => .ok 2
  | bytes bs => .ok bs.length
  | undefined hint => .error (undefinedError hint)
  | v => .error (.mismatch s!"object of type {Text.quote v.typeName} has no len()")

end Datum
end Template
end UiTags
