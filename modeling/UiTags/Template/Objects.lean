import UiTags.Template.Heap

/-!
# Working with the interpreter's objects

Attribute and item access, iteration, truth, method calls and assignment, for values that may
name heap objects. A list answers its methods (`append`, `pop`, `sort`, …) by changing its
cell; a dictionary likewise (`update`, `setdefault`, `pop`, …); a namespace has the attributes
assigned to it; a cycler steps through its items with `next`; a joiner gives the empty text on
its first call and its separator after; a loop answers its attributes (`index`, `length`,
`previtem`, …), `cycle` and `changed`. The methods that change nothing, and every value that is
not a heap object, are left to the pure functions of the template language, on resolved values.

`namespace`, `cycler` and `joiner` make new heap objects; the other functions of the language
are pure.
-/

namespace UiTags
namespace Template
namespace Heap

/-- A value with every reference resolved. -/
def resolved (v : Datum) : Eval Datum := resolve depth v

/-- Arguments with every reference resolved. -/
def resolvedArgs (args : List Datum) (named : List (String × Datum)) :
    Eval (List Datum × List (String × Datum)) := do
  return (← args.mapM resolved, ← named.mapM fun (k, v) => do return (k, ← resolved v))

/-- Whether a value counts as true; a heap list or dictionary by whether it has items. -/
def truthy (v : Datum) : Eval Bool := do
  match live v with
  | .ref id =>
    match ← cell id with
    | .items xs => return !xs.isEmpty
    | .pairs ps => return !ps.isEmpty
    | _ => return true
  | v => Datum.truthy v

/-- The items a loop over a value goes through: the items of a list and the keys of a
dictionary as they are held, and for any other value its items as data. -/
def iterate (v : Datum) : Eval (List Datum) := do
  match live v with
  | .ref id =>
    match ← cell id with
    | .items xs => return xs
    | .pairs ps => return ps.map (·.1)
    | .names _ => throw (.mismatch "'Namespace' object is not iterable")
    | .cycler .. => throw (.mismatch "'Cycler' object is not iterable")
    | .joiner .. => throw (.mismatch "'Joiner' object is not iterable")
    | .loop l =>
      if l.finished then return []
      return (← sourceItems l.source).drop l.taken
    | _ => throw (.mismatch "'object' object is not iterable")
  | .list xs => return xs
  | .tuple xs => return xs
  | v => Datum.items (← resolved v)

/-- Where a loop over a value takes its items from: a list or dictionary the interpreter keeps
is read as the loop goes, anything else gives its items when the loop begins. -/
def loopSource (v : Datum) : Eval LoopSource := do
  match live v with
  | .ref id =>
    match ← cell id with
    | .items _ => return .list id
    | .pairs ps => return .keys id ps.length
    | _ => return .fixed (← iterate v)
  | v => return .fixed (← iterate v)

/-- The undefined value of a missing attribute of an object of this class. -/
def missing (cls name : String) : Datum :=
  .undefined (Text.quote (cls ++ " object") ++ " has no attribute " ++ Text.quote name)

/-- The block a reference to the chain of blocks of a name at a level stands for, or undefined
when the chain is shorter. -/
def blockAt (ctx : Nat) (name : String) (level : Nat) : Eval Datum := do
  let c ← context ctx
  let chain := (c.blocks.lookup name).getD []
  if level < chain.length then return .blockRef name level ctx
  else return .undefined s!"there is no parent block called {Text.quote name}."

/-- `v.name`: an attribute, or else an item of that name, or else undefined. -/
def attrOf (v : Datum) (name : String) : Eval Datum := do
  let v := live v
  match v with
  | .ref id =>
    let c ← cell id
    if name == "__class__" then return .classNamed c.className
    match c with
    | .items _ =>
      return if Datum.listMethods.contains name || (Datum.specialNames (.list [])).contains name
        then .method v name else missing "list" name
    | .pairs ps =>
      if Datum.dictMethods.contains name || (Datum.specialNames (.dict [])).contains name then
        return .method v name
      match ← Datum.lookup ps (.str name) with
      | some x => return x
      | none => return missing "dict" name
    | .names fs => return (fs.lookup name).getD (missing "Namespace" name)
    | .cycler xs pos =>
      if name == "current" then return (xs[pos]?).getD .none
      else if name == "next" || name == "reset" then return .method v name
      else return missing "Cycler" name
    | .joiner sep _ => return if name == "sep" then sep else missing "Joiner" name
    | .loop _ =>
      match ← loopAttr id name with
      | some x => return x
      | none =>
        if name == "cycle" || name == "changed" then return .method v name
        else return missing "LoopContext" name
    | _ => return missing "object" name
  | .selfRef ctx _ =>
    let c ← context ctx
    if c.blocks.any (·.1 == name) then return .blockRef name 0 ctx
    else return missing "TemplateReference" name
  | .blockRef n level ctx =>
    if name == "super" then blockAt ctx n (level + 1) else return missing "BlockReference" name
  | v => Datum.getAttr v name

/-- `v[key]`, the key resolved: an item, or else for a text key the attribute of that name, or
else undefined. -/
def itemOf (v key : Datum) : Eval Datum := do
  let byName : Eval Datum :=
    match key with
    | .str n | .safe n => attrOf v n
    | _ => return .undefined "no such element"
  match live v with
  | .ref id =>
    match ← cell id with
    | .items xs =>
      match key.num? with
      | some (.int i) =>
        match Datum.position xs.length i with
        | some j => return (xs[j]?).getD .none
        | none => return .undefined "list index out of range"
      | _ => byName
    | .pairs ps =>
      if (Datum.unhashable? key).isSome then byName
      else match ← Datum.lookup ps key with
        | some x => return x
        | none => byName
    | _ => byName
  | .selfRef .. | .blockRef .. => byName
  | v => Datum.getItem v key

/-- The position an insertion at index `i` takes in a list of `n` items. -/
def insertAt (n : Nat) (i : Int) : Nat :=
  if i < 0 then (max (i + n) 0).toNat else min i.toNat n

/-- Sort items by keys, keeping equal ones in order; `descending` reverses the order. -/
def sortByKeys (items keys : List Datum) (descending : Bool) : Except Error (List Datum) := do
  let lt (a b : Datum × Datum) : Except Error Bool :=
    if descending then Datum.lessThan b.2 a.2 else Datum.lessThan a.2 b.2
  return (← Datum.sortWith lt (items.zip keys)).map (·.1)

/-- The index of the first item equal to a value. -/
def firstEqual (x : Datum) (ys : List Datum) : Except Error (Option Nat) := do
  let rec go : List Datum → Nat → Except Error (Option Nat)
    | [], _ => .ok none
    | y :: rest, i => do if ← Datum.equals x y then return some i else go rest (i + 1)
  go ys 0

/-- Call a method of a heap list that may change it. -/
def listMethod (id : Nat) (xs : List Datum) (self : Datum) (name : String) (args : List Datum)
    (named : List (String × Datum)) : Eval Datum := do
  let exactlyOne (m : String) : Eval Datum := do
    match args with
    | [a] => return a
    | _ => throw (.mismatch s!"list.{m}() takes exactly one argument ({args.length} given)")
  match name with
  | "append" =>
    let a ← exactlyOne "append"
    put id (.items (xs ++ [← store depth a]))
    return .none
  | "extend" =>
    let a ← exactlyOne "extend"
    let more ← iterate a
    put id (.items (xs ++ (← more.mapM (store depth))))
    return .none
  | "insert" =>
    match args with
    | [i, a] =>
      match (← resolved i).num? with
      | some (.int k) =>
        let j := insertAt xs.length k
        put id (.items (xs.take j ++ [← store depth a] ++ xs.drop j))
        return .none
      | _ => throw (.mismatch "'str' object cannot be interpreted as an integer")
    | _ => throw (.mismatch s!"insert expected 2 arguments, got {args.length}")
  | "pop" =>
    let k ← match args with
      | [] => pure (-1 : Int)
      | [i] => do
        match (← resolved i).num? with
        | some (.int k) => pure k
        | _ => throw (.mismatch "'str' object cannot be interpreted as an integer")
      | _ => throw (.mismatch s!"pop expected at most 1 argument, got {args.length}")
    if xs.isEmpty then throw (.noIndex "pop from empty list")
    match Datum.position xs.length k with
    | some j =>
      put id (.items (xs.eraseIdx j))
      return (xs[j]?).getD .none
    | none => throw (.noIndex "pop index out of range")
  | "remove" =>
    let a ← resolved (← exactlyOne "remove")
    match ← firstEqual a (← xs.mapM resolved) with
    | some j =>
      put id (.items (xs.eraseIdx j))
      return .none
    | none => throw (.badValue "list.remove(x): x not in list")
  | "reverse" =>
    put id (.items xs.reverse)
    return .none
  | "clear" =>
    put id (.items [])
    return .none
  | "sort" =>
    unless args.isEmpty do
      throw (.mismatch "sort() takes no positional arguments")
    let descending ← match named.lookup "reverse" with
      | some r => Datum.truthy (← resolved r)
      | none => pure false
    put id (.items (← sortByKeys xs (← xs.mapM resolved) descending))
    return .none
  | _ =>
    let (a, n) ← resolvedArgs args named
    Datum.callMethod (← resolved self) name a n

/-- The pairs a dictionary is updated with from a value: a dictionary's pairs, or the pairs of
an iterable of two-item sequences. -/
def pairsOf (v : Datum) : Eval (List (Datum × Datum)) := do
  match live v with
  | .ref id =>
    match ← cell id with
    | .pairs ps => return ps
    | _ => itemPairs (← iterate v)
  | .dict ps => return ps
  | v => itemPairs (← iterate v)
where
  /-- The pairs given by two-item sequences. -/
  itemPairs (items : List Datum) : Eval (List (Datum × Datum)) :=
    items.zipIdx.mapM fun (x, i) => do
      let parts ← iterate x
      match parts with
      | [k, y] => return (← resolved k, y)
      | _ =>
        throw (.badValue s!"dictionary update sequence element #{i} has length {parts.length}; 2 is required")

/-- Call a method of a heap dictionary that may change it. -/
def dictMethod (id : Nat) (ps : List (Datum × Datum)) (self : Datum) (name : String)
    (args : List Datum) (named : List (String × Datum)) : Eval Datum := do
  match name with
  | "update" =>
    let given ← match args with
      | [] => pure []
      | [a] => pairsOf a
      | _ => throw (.mismatch s!"update expected at most 1 argument, got {args.length}")
    let all := given ++ named.map fun (k, v) => (Datum.str k, v)
    let updated ← all.foldlM (fun acc (k, v) => do Datum.insert acc k (← store depth v)) ps
    put id (.pairs updated)
    return .none
  | "setdefault" =>
    let (k, d) ← match args with
      | [k] => pure (k, Datum.none)
      | [k, d] => pure (k, d)
      | _ => throw (.mismatch s!"setdefault expected at least 1 argument, got {args.length}")
    let key ← resolved k
    match ← Datum.lookup ps key with
    | some x => return x
    | none =>
      let v ← store depth d
      put id (.pairs (ps ++ [(key, v)]))
      return v
  | "pop" =>
    let (k, d) ← match args with
      | [k] => pure (k, Option.none)
      | [k, d] => pure (k, some d)
      | _ => throw (.mismatch s!"pop expected at least 1 argument, got {args.length}")
    let key ← resolved k
    match ← firstEqual key (ps.map (·.1)) with
    | some j =>
      put id (.pairs (ps.eraseIdx j))
      return ((ps[j]?).map (·.2)).getD .none
    | none =>
      match d with
      | some x => return x
      | none => throw (.noKey (← Datum.reprText key))
  | "popitem" =>
    match ps.getLast? with
    | some (k, v) =>
      put id (.pairs ps.dropLast)
      return .tuple [k, v]
    | none => throw (.noKey "'popitem(): dictionary is empty'")
  | "clear" =>
    put id (.pairs [])
    return .none
  | _ =>
    let (a, n) ← resolvedArgs args named
    Datum.callMethod (← resolved self) name a n

/-- Call a method of a heap object. -/
def callObjectMethod (id : Nat) (name : String) (args : List Datum)
    (named : List (String × Datum)) : Eval Datum := do
  let self := Datum.ref id
  match ← cell id with
  | .items xs => listMethod id xs self name args named
  | .pairs ps => dictMethod id ps self name args named
  | .cycler xs pos =>
    if name == "next" then
      put id (.cycler xs (if xs.isEmpty then 0 else (pos + 1) % xs.length))
      return (xs[pos]?).getD .none
    else
      put id (.cycler xs 0)
      return .none
  | .loop l =>
    if name == "cycle" then
      if args.isEmpty then throw (.mismatch "no items for cycling given")
      return (args[(l.count - 1) % args.length]?).getD .none
    else
      let value ← resolved (.tuple args)
      let same ← match l.lastChanged with
        | some last => Datum.equals last value
        | none => pure false
      if same then return .bool false
      put id (.loop { l with lastChanged := some value })
      return .bool true
  | _ => throw (.mismatch s!"the method {name} is not supported")

/-- Call a function of the template language. -/
def callGlobal (name : String) (args : List Datum) (named : List (String × Datum)) :
    Eval Datum := do
  match name with
  | "namespace" =>
    let given : List (Datum × Datum) ← match args with
      | [] => pure []
      | [a] => pairsOf a
      | _ => throw (.mismatch s!"dict expected at most 1 argument, got {args.length}")
    let all : List (Datum × Datum) := given ++ named.map fun (k, v) => (Datum.str k, v)
    let fields ← all.foldlM
      (fun (acc : List (String × Datum)) (kv : Datum × Datum) => do
        let key ← Datum.text kv.1
        return setField acc key (← store depth kv.2)) []
    return .ref (← alloc (.names fields))
  | "cycler" =>
    if args.isEmpty then throw (.raised "RuntimeError" "at least one item has to be provided")
    return .ref (← alloc (.cycler (← args.mapM (store depth)) 0))
  | "joiner" =>
    let sep := (args.head?).getD ((named.lookup "sep").getD (.str ", "))
    return .ref (← alloc (.joiner sep false))
  | _ =>
    let (a, n) ← resolvedArgs args named
    Datum.callBuiltin name a n

/-- Bind a target to a value in a frame: a name to the value, a namespace attribute to it, or
several targets to the items of a sequence. At the top level of a rendering a bound name is
exported when `exports` holds. -/
def bindTarget (frame : Nat) (exports : Bool) : Nat → Target → Datum → Eval Unit
  | 0, _, _ => throw .tooDeep
  | fuel + 1, t, v =>
    match t with
    | .one n => do bind frame n (← store depth v) exports
    | .attr obj field => do
      match ← lookup frame obj with
      | some (.ref id) =>
        match ← cell id with
        | .names fs => put id (.names (setField fs field (← store depth v)))
        | _ => throw (.runtime "cannot assign attribute on non-namespace object")
      | _ => throw (.runtime "cannot assign attribute on non-namespace object")
    | .many targets => do
      let parts ← match v with
        | .undefined hint => throw (.undefined hint)
        | .int _ | .float _ | .bool _ | .none =>
          throw (.mismatch s!"cannot unpack non-iterable {v.typeName} object")
        | v => iterate v
      if parts.length < targets.length then
        throw (.badValue s!"not enough values to unpack (expected {targets.length}, got {parts.length})")
      if targets.length < parts.length then
        throw (.badValue s!"too many values to unpack (expected {targets.length})")
      for (t', x) in targets.zip parts do
        bindTarget frame exports fuel t' x

end Heap
end Template
end UiTags
