import UiTags.Template.Filters

/-!
# Constant expressions

An expression built only from constants (no names, no calls) has a value before the template
runs, and the language computes it once, when it reads the template:

- a printed expression with a constant value is printed from that value;
- elsewhere each largest constant part of an expression is replaced by its value, written back
  as a literal. A value with no literal form (an iterator, a method, a group, …) is left to be
  computed when the template runs.

A float that is infinite or not a number has no literal of its own: written back, it reads
`inf` or `nan`, which names nothing, so running a part of a template that holds such a
constant fails with an unbound name.

Filters that need the running template (`map`, `select`, `reject`, `selectattr`, `rejectattr`,
`random`) are not computed ahead, nor is a part whose computation fails: it is left to fail,
or not, when it runs. Joining with `~` ahead of time joins the plain texts of the parts, safe
or not.
-/

namespace UiTags
namespace Template

/-- The value of a constant. -/
def Const.datum : Const → Datum
  | .none => .none
  | .bool b => .bool b
  | .int n => .int n
  | .float x => .float x
  | .str s => .str s

namespace Fold

/-- Filters that need the running template and so are not computed ahead. -/
def contextual : List String := ["map", "select", "reject", "selectattr", "rejectattr", "random"]

/-- Whether a value has a literal form: none, truth values, numbers, texts, ranges, and lists,
tuples and dictionaries of such values. -/
def literal : Datum → Bool
  | .none | .bool _ | .int _ | .float _ | .str _ | .safe _ | .range .. => true
  | .list xs | .tuple xs => literalItems xs
  | .dict ps => literalPairs ps
  | _ => false
where
  literalItems : List Datum → Bool
    | [] => true
    | x :: xs => literal x && literalItems xs
  literalPairs : List (Datum × Datum) → Bool
    | [] => true
    | (k, v) :: ps => literal k && literal v && literalPairs ps

/-- The name the literal of a value uses that names nothing: `nan` or `inf` for the first float
in it that is not a number or infinite, in the order the literal writes them. -/
def unbound? : Datum → Option String
  | .float .nan => some "nan"
  | .float (.infinite _) => some "inf"
  | .list xs | .tuple xs => unboundItems xs
  | .dict ps => unboundPairs ps
  | _ => none
where
  unboundItems : List Datum → Option String
    | [] => none
    | x :: xs => (unbound? x).orElse fun _ => unboundItems xs
  unboundPairs : List (Datum × Datum) → Option String
    | [] => none
    | (k, v) :: ps => ((unbound? k).orElse fun _ => unbound? v).orElse fun _ => unboundPairs ps

/-- The value of a computation, if it succeeds. -/
def ok? {α : Type} (r : Except Error α) : Option α :=
  match r with
  | .ok a => some a
  | .error _ => none

mutual

/-- The value of an expression computed ahead of time, where `escapes` says whether printing
escapes in the template; none when the expression is not constant or computing it fails. -/
def value (escapes : Bool) : Nat → Expr → Option Datum
  | 0, _ => none
  | fuel + 1, e =>
    match e with
    | .const c => some c.datum
    | .attr x n => do ok? (Datum.getAttr (← value escapes fuel x) n)
    | .index x k => do
      let v ← value escapes fuel x
      ok? (Datum.getItem v (← value escapes fuel k))
    | .slice x a b c => do
      let v ← value escapes fuel x
      let lo ← bound escapes fuel a
      let hi ← bound escapes fuel b
      let st ← bound escapes fuel c
      ok? (Datum.slice v lo hi st)
    | .filter x name args named =>
      if contextual.contains name then none
      else do
        let v ← value escapes fuel x
        let avs ← values escapes fuel args
        let nvs ← namedValues escapes fuel named
        ok? (Datum.applyFilter escapes name v avs nvs)
    | .test x name args named => do
      let v ← value escapes fuel x
      let avs ← values escapes fuel args
      let nvs ← namedValues escapes fuel named
      .bool <$> ok? (Datum.test name v avs nvs)
    | .not x => do return .bool !(← ok? (Datum.truthy (← value escapes fuel x)))
    | .neg x => do ok? (Datum.negate (← value escapes fuel x))
    | .pos x => do ok? (Datum.plus (← value escapes fuel x))
    | .and a b => do
      let av ← value escapes fuel a
      if ← ok? (Datum.truthy av) then value escapes fuel b else some av
    | .or a b => do
      let av ← value escapes fuel a
      if ← ok? (Datum.truthy av) then some av else value escapes fuel b
    | .arith op a b => do
      let av ← value escapes fuel a
      ok? (Datum.operate op av (← value escapes fuel b))
    | .concat parts => do
      let vs ← values escapes fuel parts
      .str <$> String.join <$> ok? (vs.mapM Datum.text)
    | .compare first rest => do chain escapes fuel (← value escapes fuel first) rest
    | .cond test yes no => do
      if ← ok? (Datum.truthy (← value escapes fuel test)) then value escapes fuel yes
      else match no with
        | some n => value escapes fuel n
        | Option.none => none
    | .list items => .list <$> values escapes fuel items
    | .tuple items => .tuple <$> values escapes fuel items
    | .dict pairs => do
      let kvs ← pairValues escapes fuel pairs
      .dict <$> ok? (kvs.foldlM (fun acc (k, v) => Datum.insert acc k v) [])
    | .var _ | .call .. | .spread _ | .spreadNamed _ => none

/-- The values of expressions computed ahead of time, if all are constant. -/
def values (escapes : Bool) : Nat → List Expr → Option (List Datum)
  | 0, _ => none
  | _ + 1, [] => some []
  | fuel + 1, x :: xs => do return (← value escapes fuel x) :: (← values escapes fuel xs)

/-- The values of named arguments computed ahead of time, if all are constant. -/
def namedValues (escapes : Bool) : Nat → List (String × Expr) → Option (List (String × Datum))
  | 0, _ => none
  | _ + 1, [] => some []
  | fuel + 1, (k, x) :: xs => do
    return (k, ← value escapes fuel x) :: (← namedValues escapes fuel xs)

/-- The keys and values of a dictionary display computed ahead of time, if all are constant. -/
def pairValues (escapes : Bool) : Nat → List (Expr × Expr) → Option (List (Datum × Datum))
  | 0, _ => none
  | _ + 1, [] => some []
  | fuel + 1, (k, x) :: xs => do
    let kv ← value escapes fuel k
    return (kv, ← value escapes fuel x) :: (← pairValues escapes fuel xs)

/-- A slice bound computed ahead of time: absent, or constant. -/
def bound (escapes : Bool) : Nat → Option Expr → Option (Option Datum)
  | 0, _ => none
  | _ + 1, Option.none => some Option.none
  | fuel + 1, some x => some <$> value escapes fuel x

/-- Whether a chain of comparisons holds, its left operand given, computed ahead of time; the
operands after the first comparison that fails are not computed. -/
def chain (escapes : Bool) : Nat → Datum → List (CompareOp × Expr) → Option Datum
  | 0, _, _ => none
  | _ + 1, _, [] => some (.bool true)
  | fuel + 1, left, (op, e) :: more => do
    let right ← value escapes fuel e
    let holds ← ok? (match op with
      | .eq => Datum.equals left right
      | .ne => (! ·) <$> Datum.equals left right
      | .isIn => Datum.holdsItem right left
      | .notIn => (! ·) <$> Datum.holdsItem right left
      | op => Datum.holds op <$> Datum.order (Datum.opText op) left right)
    if holds then chain escapes fuel right more else some (.bool false)

end

/-- How deep computing ahead of time goes into an expression. -/
def depth : Nat := 4096

/-- The value that stands in place of an expression when the template runs, if the expression
is constant and its value has a literal form. -/
def folded (escapes : Bool) (e : Expr) : Option Datum :=
  match e with
  | .var _ | .call .. => none
  | e => (value escapes depth e).filter literal

/-- The value a printed expression is printed from, if it is constant. -/
def printedValue (escapes : Bool) (e : Expr) : Option Datum :=
  value escapes depth e

end Fold
end Template
end UiTags
