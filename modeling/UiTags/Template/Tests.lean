import UiTags.Template.Methods

/-!
# Tests

The tests a template may apply with `value is name(args)`: of kind (`none`, `boolean`,
`integer`, `float`, `number`, `string`, `mapping`, `sequence`, `iterable`, `callable`,
`escaped`), of value (`true`, `false`, `odd`, `even`, `divisibleby`, `lower`, `upper`), of
definedness, of comparison (`eq`, `lt`, `in`, … and their symbols), of identity (`sameas`),
and whether a text names a filter or a test.
-/

namespace UiTags
namespace Template
namespace Datum

/-- The names of the tests. -/
def testNames : List String :=
  ["boolean", "callable", "defined", "divisibleby", "eq", "equalto", "escaped", "even",
   "false", "filter", "float", "ge", "gt", "greaterthan", "in", "integer", "iterable", "le",
   "lessthan", "lower", "lt", "mapping", "ne", "none", "number", "odd", "sameas", "sequence",
   "string", "test", "true", "undefined", "upper", "==", "!=", "<", "<=", ">", ">="]

/-- The names of the filters. -/
def filterNames : List String :=
  ["abs", "attr", "batch", "capitalize", "center", "count", "d", "default", "dictsort", "e",
   "escape", "filesizeformat", "first", "float", "forceescape", "format", "groupby", "indent",
   "int", "items", "join", "last", "length", "list", "lower", "map", "max", "min", "pprint",
   "random", "reject", "rejectattr", "replace", "reverse", "round", "safe", "select",
   "selectattr", "slice", "sort", "string", "striptags", "sum", "title", "tojson", "trim",
   "truncate", "unique", "upper", "urlencode", "urlize", "wordcount", "wordwrap", "xmlattr",
   "js_str", "js_bool", "js_comment"]

/-- Whether a value can be iterated over. -/
def iterable : Datum → Bool
  | held _ v => iterable v
  | list _ | tuple _ | dict _ | str _ | safe _ | range .. | view .. | gen .. | group .. => true
  | record cls _ _ => cls != "Namespace" && cls != "Cycler" && cls != "Joiner"
  | _ => false

/-- Whether a value has a length and items by position or key. -/
def sequenceLike : Datum → Bool
  | held _ v => sequenceLike v
  | list _ | tuple _ | dict _ | str _ | safe _ | range .. | group .. => true
  | _ => false

/-- Whether a value passes a test. -/
def test (name : String) (given : Datum) (args : List Datum) (named : List (String × Datum)) :
    Except Error Bool := do
  let v := given.bare
  let one (params : List String) : Except Error (List (Option Datum)) :=
    bindParams name params params.length args named
  let other : Except Error Datum := do
    let a ← one ["other"]
    return (a.headD Option.none).getD none
  let compareWith (op : CompareOp) : Except Error Bool := do
    let o ← other
    match op with
    | .eq => equals v o
    | .ne => return !(← equals v o)
    | op => return holds op (← order (opText op) v o)
  let plain : Except Error Unit := do
    let _ ← one []
  match name with
  | "defined" => do plain; return !v.isUndefined
  | "undefined" => do plain; return v.isUndefined
  | "none" => do plain; return (v matches none)
  | "boolean" => do plain; return (v matches bool _)
  | "true" => do plain; return (v matches bool true)
  | "false" => do plain; return (v matches bool false)
  | "integer" => do plain; return (v matches int _)
  | "float" => do plain; return (v matches float _)
  | "number" => do plain; return (num? v).isSome
  | "string" => do plain; return (text? v).isSome
  | "mapping" => do plain; return (v matches dict _)
  | "sequence" => do plain; return sequenceLike v
  | "iterable" => do
    plain
    match v with
    | undefined hint => throw (undefinedError hint)
    | v => return iterable v
  | "callable" => do
    plain
    return match v with
      | macroFn .. | method .. | builtin _ | blockRef .. | undefined _ => true
      | _ => false
  | "escaped" => do plain; return (v matches safe _)
  | "odd" | "even" => do
    plain
    let r ← arith .mod v (int 2)
    let one ← equals r (int 1)
    let zero ← equals r (int 0)
    return if name == "odd" then one else zero
  | "divisibleby" => do
    let a ← one ["num"]
    let r ← arith .mod v ((a.headD Option.none).getD none)
    equals r (int 0)
  | "eq" | "equalto" | "==" => compareWith .eq
  | "ne" | "!=" => compareWith .ne
  | "lt" | "lessthan" | "<" => compareWith .lt
  | "le" | "<=" => compareWith .le
  | "gt" | "greaterthan" | ">" => compareWith .gt
  | "ge" | ">=" => compareWith .ge
  | "in" => do
    let a ← one ["seq"]
    holdsItem ((a.headD Option.none).getD none) v
  | "sameas" => do
    let o ← other
    match given, o with
    | held i _, held j _ => return i == j
    | held .., _ | _, held .. => return false
    | none, none => return true
    | bool a, bool b => return a == b
    | int a, int b => return a == b && -5 ≤ a && a ≤ 256
    | str a, str b => return a == b && a.length ≤ 1 && a.toList.all fun c => c.toNat < 256
    | _, _ => return false
  | "lower" => do plain; return Text.isLowerText (← text v).toList
  | "upper" => do plain; return Text.isUpperText (← text v).toList
  | "filter" => do plain; return (text? v).any filterNames.contains
  | "test" => do plain; return (text? v).any testNames.contains
  | _ => throw (.runtime s!"No test named {Text.quote name} found.")

end Datum
end Template
end UiTags
