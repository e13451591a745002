import UiTags.Template.Format

/-!
# Arguments of methods

How the methods of values take their arguments: by position only within bounds, or bound to
named parameters by position and then by name, and read as integers, slice bounds, texts or
safe texts, each kind failing with the message its call gives for a value of the wrong kind.
-/

namespace UiTags
namespace Template
namespace Datum

/-- The failure of a call given arguments it does not take. -/
def argumentError (name : String) : Error :=
  .mismatch s!"{name}() got arguments it does not take"

/-- Arguments given by position only, between `lo` and `hi` of them. -/
def positional (name : String) (lo hi : Nat) (args : List Datum)
    (named : List (String × Datum)) : Except Error (List Datum) :=
  if !named.isEmpty then .error (.mismatch s!"{name}() takes no keyword arguments")
  else if args.length < lo || hi < args.length then .error (argumentError name)
  else .ok args

/-- Arguments bound to parameters, first by position and then by name; the first `lo`
parameters are required, and a parameter not given is none. -/
def bindParams (name : String) (params : List String) (lo : Nat) (args : List Datum)
    (named : List (String × Datum)) : Except Error (List (Option Datum)) := do
  if params.length < args.length then throw (argumentError name)
  for (k, _) in named do
    unless (params.drop args.length).contains k do throw (argumentError name)
  let bound := params.zipIdx.map fun (p, i) =>
    match args[i]? with
    | some a => some a
    | Option.none => named.lookup p
  if (bound.take lo).any Option.isNone then throw (argumentError name)
  return bound

/-- An integer argument: an integer or a truth value. -/
def indexArg (v : Datum) : Except Error Int :=
  match v with
  | int n => .ok n
  | bool b => .ok (if b then 1 else 0)
  | undefined hint => .error (undefinedError hint)
  | v => .error (.mismatch s!"{Text.quote v.typeName} object cannot be interpreted as an integer")

/-- A slice bound argument: none, or an integer. -/
def boundArg : Option Datum → Except Error (Option Int)
  | Option.none | some none => .ok Option.none
  | some v =>
    match v with
    | int n => .ok (some n)
    | bool b => .ok (some (if b then 1 else 0))
    | undefined hint => .error (undefinedError hint)
    | _ => .error (.mismatch "slice indices must be integers or None or have an __index__ method")

/-- A text argument. -/
def textArg (v : Datum) : Except Error String :=
  match v with
  | str s | safe s => .ok s
  | undefined hint => .error (undefinedError hint)
  | v => .error (.mismatch s!"must be str, not {v.typeName}")

/-- An argument as safe text: safe text as it is, anything else by its text, escaped. -/
def markupArg (v : Datum) : Except Error Datum :=
  match v with
  | safe _ => .ok v
  | v => do return safe (Html.escape (← text v))

end Datum
end Template
end UiTags
