import UiTags.Template.Filters
import UiTags.Text.Compat

/-!
# The interpreter's objects

Lists, dictionaries and namespaces that a template binds to names are mutable: a method such
as `append`, or an assignment to an attribute of a namespace, changes the one object that every
name bound to it sees. The interpreter keeps such objects in a heap of numbered cells, together
with the frames of names that loops, macros, blocks and scopes open, the contexts of renderings
(their top-level names, the names they export and their blocks), and the cyclers, joiners and
loop states that a template creates.

A value that names a heap object is `Datum.ref`. Before a value reaches the pure functions of
the template language (filters, tests, operators, printing) it is resolved: every reference is
replaced by the current contents of its object. When a value is bound to a name it is stored
the other way round: every list and dictionary it holds becomes a heap object of its own, so
that later changes through one name are seen through every other.
-/

namespace UiTags
namespace Template

/-- A block as its template defines it: its name, its body, and whether its template escapes
printed values. -/
structure BlockDef where
  name : String
  body : List Stmt
  escapes : Bool
  deriving Inhabited

/-- What a recursive loop needs to run its body again over other items: its target, condition,
body and `else` part, the frame it stands in, and whether its template escapes. -/
structure LoopBody where
  target : Target
  cond : Option Expr
  body : List Stmt
  otherwise : List Stmt
  frame : Nat
  escapes : Bool
  deriving Inhabited

/-- Where a loop takes its items from. -/
inductive LoopSource where
  /-- A list the interpreter keeps, read afresh at every step, so that the steps after a change
  made by the loop's body see it. -/
  | list (id : Nat)
  /-- The keys of a dictionary the interpreter keeps, which had `size` pairs when the loop
  began; a step after its size changed fails. -/
  | keys (id : Nat) (size : Nat)
  /-- Items fixed when the loop began. -/
  | fixed (items : List Datum)
  deriving Inhabited

/-- A running loop: where its items come from, how many it has taken from there (the one looked
at ahead included) and whether it reached the end, how many it has gone through, its depth (0
outside any recursion), its length once asked for, the item looked at ahead (none at the end)
once looked at, the current and the previous item, the last value `changed` saw, and, for a
recursive loop, how to run it again. -/
structure LoopState where
  source : LoopSource
  taken : Nat := 0
  finished : Bool := false
  count : Nat := 0
  depth : Nat
  length : Option Nat := none
  ahead : Option (Option Datum) := none
  current : Datum := .none
  before : Datum := .none
  lastChanged : Option Datum := none
  recurse : Option LoopBody := none
  deriving Inhabited

/-- The names of one rendering, shared by a template and the templates it extends: the name of
the template rendered first, the names given and those bound at top level, the names it
exports, and the blocks by name, from the most extending template down. -/
structure Context where
  name : String
  vars : List (String × Datum)
  exported : List String := []
  blocks : List (String × List BlockDef)
  deriving Inhabited

/-- What a heap cell holds. -/
inductive Cell where
  /-- A list. -/
  | items (xs : List Datum)
  /-- A dictionary, its pairs in insertion order. -/
  | pairs (ps : List (Datum × Datum))
  /-- A namespace: named values that assignments may change. -/
  | names (fields : List (String × Datum))
  /-- A frame of names, inside the frame `parent`. -/
  | frame (vars : List (String × Datum)) (parent : Nat)
  /-- The outermost frame of a rendering. -/
  | context (c : Context)
  /-- A cycler over its items, at a position. -/
  | cycler (xs : List Datum) (pos : Nat)
  /-- A joiner: its separator and whether it was called before. -/
  | joiner (sep : Datum) (used : Bool)
  | loop (l : LoopState)
  deriving Inhabited

/-- The class of the object a cell holds. -/
def Cell.className : Cell → String
  | .items _ => "list"
  | .pairs _ => "dict"
  | .names _ => "Namespace"
  | .cycler .. => "Cycler"
  | .joiner .. => "Joiner"
  | .loop _ => "LoopContext"
  | _ => "object"

/-- A template read and checked: its name, its statements, and the blocks it defines. -/
structure Compiled where
  name : String
  stmts : List Stmt
  blocks : List BlockDef
  deriving Inhabited

/-- The interpreter's state: the heap, and the template that the rendering running now extends,
once its `extends` has run. -/
structure Machine where
  cells : Array Cell := #[]
  extended : Option Compiled := none

/-- A computation of the interpreter: it reads and changes the heap, and may fail. -/
abbrev Eval := StateT Machine (Except Error)

namespace Heap

/-- Add a cell, giving its number. -/
def alloc (c : Cell) : Eval Nat :=
  modifyGet fun m => (m.cells.size, { m with cells := m.cells.push c })

/-- The cell with this number; an empty list for a number no cell has. -/
def cell (id : Nat) : Eval Cell := do
  return (← get).cells.getD id (.items [])

/-- Replace the cell with this number. -/
def put (id : Nat) (c : Cell) : Eval Unit :=
  modify fun m => { m with cells := m.cells.setIfInBounds id c }

/-- How deep resolving and storing go into nested values. -/
def depth : Nat := 2048

/-- The item of a loop's source at a position, if it has one; a dictionary whose size changed
since the loop began fails. -/
def sourceAt (src : LoopSource) (pos : Nat) : Eval (Option Datum) := do
  match src with
  | .fixed xs => return xs[pos]?
  | .list id =>
    match ← cell id with
    | .items xs => return xs[pos]?
    | _ => return none
  | .keys id size =>
    match ← cell id with
    | .pairs ps =>
      if ps.length != size then
        throw (.raised "RuntimeError" "dictionary changed size during iteration")
      return (ps[pos]?).map (·.1)
    | _ => return none

/-- The number of items of a loop's source now. -/
def sourceSize (src : LoopSource) : Eval Nat := do
  match src with
  | .fixed xs => return xs.length
  | .list id =>
    match ← cell id with
    | .items xs => return xs.length
    | _ => return 0
  | .keys id _ =>
    match ← cell id with
    | .pairs ps => return ps.length
    | _ => return 0

/-- The items of a loop's source now. -/
def sourceItems (src : LoopSource) : Eval (List Datum) := do
  match src with
  | .fixed xs => return xs
  | .list id =>
    match ← cell id with
    | .items xs => return xs
    | _ => return []
  | .keys id _ =>
    match ← cell id with
    | .pairs ps => return ps.map (·.1)
    | _ => return []

/-- The next item a loop's source gives, and the loop after taking it; once the source has
reached its end it gives nothing more, even if it grows again. -/
def takeNext (l : LoopState) : Eval (Option Datum × LoopState) := do
  if l.finished then return (none, l)
  match ← sourceAt l.source l.taken with
  | some x => return (some x, { l with taken := l.taken + 1 })
  | none => return (none, { l with finished := true })

/-- The item after the current one, looked at without moving past the current one. -/
def peek (id : Nat) : Eval (Option Datum) := do
  match ← cell id with
  | .loop l =>
    match l.ahead with
    | some x => return x
    | none =>
      let (x, l) ← takeNext l
      put id (.loop { l with ahead := some x })
      return x
  | _ => return none

/-- Move a loop to its next item: the item, or none at the end. -/
def advance (id : Nat) : Eval (Option Datum) := do
  match ← cell id with
  | .loop l =>
    let (x, l) ← match l.ahead with
      | some x => pure (x, { l with ahead := none })
      | none => takeNext l
    match x with
    | some item =>
      put id (.loop { l with count := l.count + 1, before := l.current, current := item })
      return some item
    | none =>
      put id (.loop l)
      return none
  | _ => return none

/-- How many more steps a loop may take as its source stands now. -/
def remaining (id : Nat) : Eval Nat := do
  match ← cell id with
  | .loop l =>
    let waiting := if l.ahead matches some (some _) then 1 else 0
    if l.finished then return waiting
    return (← sourceSize l.source) - l.taken + waiting
  | _ => return 0

/-- A loop's length: the size of its source when first asked for, kept from then on. -/
def loopLength (id : Nat) : Eval Nat := do
  match ← cell id with
  | .loop l =>
    match l.length with
    | some n => return n
    | none =>
      let n ← sourceSize l.source
      put id (.loop { l with length := some n })
      return n
  | _ => return 0

/-- The value of a loop's attribute, if it has one of this name. -/
def loopAttr (id : Nat) (name : String) : Eval (Option Datum) := do
  let .loop l ← cell id | return none
  let i := l.count
  match name with
  | "index" => return some (.int i)
  | "index0" => return some (.int (i - 1 : Int))
  | "revindex" => return some (.int ((← loopLength id : Int) - i + 1))
  | "revindex0" => return some (.int ((← loopLength id : Int) - i))
  | "first" => return some (.bool (i == 1))
  | "last" => return some (.bool (← peek id).isNone)
  | "length" => return some (.int (← loopLength id))
  | "depth" => return some (.int (l.depth + 1))
  | "depth0" => return some (.int l.depth)
  | "previtem" =>
    return some (if i == 1 then .undefined "there is no previous item" else l.before)
  | "nextitem" => return some ((← peek id).getD (.undefined "there is no next item"))
  | _ => return none

/-- A loop as plain data: the object its attributes describe, the item after the current one
read without looking ahead. -/
def loopRecord (id : Nat) : Eval Datum := do
  let field (k : String) : Eval (String × Datum) := do return (k, (← loopAttr id k).getD .none)
  let fields ← ["index", "index0", "length", "revindex", "revindex0", "first", "depth", "depth0",
    "previtem"].mapM field
  let .loop l ← cell id | return .none
  let next ← match l.ahead with
    | some x => pure x
    | none => if l.finished then pure none else sourceAt l.source l.taken
  return .record "LoopContext" (fields.take 3)
    (fields.drop 3 ++ [("last", .bool next.isNone),
      ("nextitem", next.getD (.undefined "there is no next item"))])

/-- A value with every reference replaced by the current contents of its object, held with the
object's number (see `Datum.held`); a value read before is read again. -/
def resolve : Nat → Datum → Eval Datum
  | 0, _ => pure .none
  | fuel + 1, v =>
    match v with
    | .ref id | .held id _ => do
      match ← cell id with
      | .items xs => return .held id (.list (← xs.mapM (resolve fuel)))
      | .pairs ps =>
        return .held id (.dict (← ps.mapM fun (k, x) => do return (← resolve fuel k, ← resolve fuel x)))
      | .names fs =>
        return .held id (.record "Namespace" (← fs.mapM fun (k, x) => do return (k, ← resolve fuel x)) [])
      | .loop _ => return .held id (← loopRecord id)
      | .cycler xs pos => return .held id (.record "Cycler" [] [("current", (xs[pos]?).getD .none)])
      | .joiner sep _ => return .held id (.record "Joiner" [] [("sep", sep)])
      | _ => return .none
    | .list xs => return .list (← xs.mapM (resolve fuel))
    | .tuple xs => return .tuple (← xs.mapM (resolve fuel))
    | .dict ps => return .dict (← ps.mapM fun (k, x) => do return (← resolve fuel k, ← resolve fuel x))
    | .view k xs => return .view k (← xs.mapM (resolve fuel))
    | v => pure v

/-- A value as a name holds it: every list and dictionary in it made a heap object. -/
def store : Nat → Datum → Eval Datum
  | 0, v => pure v
  | fuel + 1, v =>
    match v with
    | .held id _ => return .ref id
    | .list xs => do return .ref (← alloc (.items (← xs.mapM (store fuel))))
    | .dict ps => do
      return .ref (← alloc (.pairs (← ps.mapM fun (k, x) => do return (k, ← store fuel x))))
    | .tuple xs => return .tuple (← xs.mapM (store fuel))
    | v => pure v

/-- The reference a value read from an object stands for, so that using it reaches the object:
the object itself, or its method. -/
def live : Datum → Datum
  | .held id _ => .ref id
  | .method (.held id _) name => .method (.ref id) name
  | v => v

/-- Names with one bound: its value replaced where it is, else the name added in front. -/
def setVar (vars : List (String × Datum)) (name : String) (v : Datum) : List (String × Datum) :=
  if vars.any (·.1 == name) then vars.map fun (k, x) => if k == name then (k, v) else (k, x)
  else (name, v) :: vars

/-- Named values with one set: its value replaced where it is, else the name added last. -/
def setField (fields : List (String × Datum)) (name : String) (v : Datum) :
    List (String × Datum) :=
  if fields.any (·.1 == name) then fields.map fun (k, x) => if k == name then (k, v) else (k, x)
  else fields ++ [(name, v)]

/-- The value bound to a name with the same compatibility form as `key`, if any. -/
def lookupCompat (vars : List (String × Datum)) (key : String) : Option Datum :=
  (vars.find? fun (k, _) => Text.compatName k == key).map (·.2)

/-- The value of a name, looked up from a frame outwards, if some frame binds it. Names the
template binds match by their compatibility form, so `ﬁ` and `fi` name one variable; of the
names of the context, only those the template set match so, the others must match exactly. -/
def lookup (frame : Nat) (name : String) : Eval (Option Datum) := do
  let key := Text.compatName name
  let rec go : Nat → Nat → Eval (Option Datum)
    | 0, _ => pure none
    | fuel + 1, id => do
      match ← cell id with
      | .frame vars parent =>
        match vars.lookup name with
        | some v => return some v
        | none =>
          match lookupCompat vars key with
          | some v => return some v
          | none => go fuel parent
      | .context c =>
        match c.vars.lookup name with
        | some v => return some v
        | none => return lookupCompat (c.vars.filter fun (k, _) => c.exported.contains k) key
      | _ => return none
  go ((← get).cells.size + 1) frame

/-- The number of the context a frame stands in. -/
def contextOf (frame : Nat) : Eval Nat := do
  let rec go : Nat → Nat → Eval Nat
    | 0, id => pure id
    | fuel + 1, id => do
      match ← cell id with
      | .frame _ parent => go fuel parent
      | _ => return id
  go ((← get).cells.size + 1) frame

/-- The context with this number. -/
def context (id : Nat) : Eval Context := do
  match ← cell id with
  | .context c => return c
  | _ => return { name := "", vars := [], blocks := [] }

/-- Bind a name in a frame. At the top level of a rendering the name is also exported when
`exports` holds and it does not start with an underscore, and withdrawn from the exported
names otherwise. -/
def bind (frame : Nat) (name : String) (v : Datum) (exports : Bool) : Eval Unit := do
  match ← cell frame with
  | .frame vars parent => put frame (.frame (setVar vars name v) parent)
  | .context c =>
    let exported :=
      if exports && !name.startsWith "_" then
        if c.exported.contains name then c.exported else c.exported ++ [name]
      else c.exported.filter (· != name)
    put frame (.context { c with vars := setVar c.vars name v, exported })
  | _ => pure ()

/-- Every name visible from a frame with its value, the innermost binding of each. -/
def visible (frame : Nat) : Eval (List (String × Datum)) := do
  let rec go : Nat → Nat → List (String × Datum) → Eval (List (String × Datum))
    | 0, _, acc => pure acc
    | fuel + 1, id, acc => do
      let add (vars : List (String × Datum)) : List (String × Datum) :=
        acc ++ (vars.filter fun (k, _) => !acc.any (·.1 == k))
      match ← cell id with
      | .frame vars parent => go fuel parent (add vars)
      | .context c => return add c.vars
      | _ => return acc
  go ((← get).cells.size + 1) frame []

/-- Open a frame inside another. -/
def openFrame (parent : Nat) (vars : List (String × Datum) := []) : Eval Nat :=
  alloc (.frame vars parent)

end Heap
end Template
end UiTags
