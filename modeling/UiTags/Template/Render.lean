import UiTags.Template.Parse
import UiTags.Template.Check
import UiTags.Template.Objects
import UiTags.Template.Fold
import UiTags.Template.Nesting

/-!
# Rendering templates

A template renders to text from the names it is given. Statements run in order: text is
written as it is, a printed value as its text (escaped, unless it is safe, where printing
escapes: in templates whose name ends in `.html`, and inside `autoescape` sections that turn it
on), `if` runs its first arm whose test is true, `for` runs its body once per item with the item
and `loop` bound, `set` binds a name (or a namespace attribute) for the statements after it, and
macros, once defined, are called like functions and give the text their body renders.

Names live in frames. A rendering's outermost frame is its context: the names it was given and
those bound at its top level (also inside `if` arms there), which `import` exports. Loop
iterations, macro calls, `with` and `autoescape` scopes, captured and filtered bodies, and
blocks each open a frame of their own, whose names are gone when it ends. A macro sees the names
of the frame it was defined in as they are when it is called; a block sees only the context,
unless it is scoped.

A template that extends another writes what it prints before its `extends`, then runs its other
statements without printing, and then the other template renders in the same context, its
blocks giving way to the blocks of the same name that extending templates define; `super()`
inside such a block renders the block it replaced, and `self.name()` renders the block in
force. `include` writes another template rendered from the names visible where it stands;
`import` binds the macros and top-level names of another template, rendered on its own.

Templates are found by name in a library: given templates first, then the packaged ones. Every
function of the interpreter takes a depth bound; running out of it fails like a recursion
that is too deep.
-/

namespace UiTags
namespace Template

/-- Templates by name, searched in order. -/
structure Library where
  sources : List (String × String)
  deriving Inhabited

namespace Library

/-- A template name as a path: empty and `.` parts dropped; none when a part is `..`. -/
def normalize (name : String) : Option String :=
  let parts := (name.splitOn "/").filter fun p => !p.isEmpty && p != "."
  if parts.contains ".." then Option.none else some ("/".intercalate parts)

/-- The source of the template with this name. -/
def find? (lib : Library) (name : String) : Option String :=
  (normalize name).bind fun n => (lib.sources.find? (·.1 == n)).map (·.2)

end Library

/-- Names with their values, as a template is given them. -/
abbrev Names := List (String × Datum)

/-- Whether printing escapes in the template with this name. -/
def escapesIn (name : String) : Bool := (Text.lower name).endsWith ".html"

/-- Read and check the template with this name, read `reading` calls deep. -/
def compile (lib : Library) (name : String) (reading : Nat) : Except Error Compiled := do
  let source ← match lib.find? name with
    | some s => pure s
    | Option.none => throw (.missing name)
  let stmts ← parse source reading
  Check.template stmts
  Nesting.check stmts
  let escapes := escapesIn name
  return { name, stmts,
           blocks := (Check.blocksOf Check.depth stmts).map fun (n, body) => { name := n, body, escapes } }

/-- The name of a template, as a value gives it. -/
def nameOf (v : Datum) : Except Error String :=
  match v with
  | .str n | .safe n => .ok n
  | .undefined hint => .error (.undefined hint)
  | .list _ | .dict _ | .held .. => .error (Datum.unhashableError v.typeName)
  | v => .error (.noAttribute s!"{Text.quote v.typeName} object has no attribute 'split'")

/-- Read and check the template a value names, read `reading` calls deep. -/
def compileNamed (lib : Library) (v : Datum) (reading : Nat) : Except Error Compiled := do
  compile lib (← nameOf v) reading

/-- Whether a failure says a template does not exist. -/
def absent (e : Error) : Bool := e matches .missing _ || e matches .missingAll _

/-- The first of the templates named that exists; names that are undefined are passed over. -/
def firstFound (lib : Library) (reading : Nat) : List Datum → Except Error (Option Compiled)
  | [] => .ok Option.none
  | n :: rest =>
    match compileNamed lib n reading with
    | .ok t => .ok (some t)
    | .error e =>
      if absent e || e matches .undefined _ then firstFound lib reading rest else .error e

/-- Read and check the template a value names, or the first of a list of names that exists.
With `ignoreMissing`, none when no such template exists. -/
def select (lib : Library) (v : Datum) (ignoreMissing : Bool) (reading : Nat) :
    Except Error (Option Compiled) :=
  let found : Except Error Compiled := match v.bare with
    | .list names | .tuple names => do
      if names.isEmpty then throw (.missingAll [])
      match ← firstFound lib reading names with
      | some t => return t
      | Option.none => throw (.missingAll (names.filterMap Datum.text?))
    | v => compileNamed lib v reading
  match found with
  | .ok t => .ok (some t)
  | .error e => if ignoreMissing && absent e then .ok Option.none else .error e

/-- A parent template's blocks added at the end of the chains of a rendering's blocks. -/
def appendBlocks (blocks : List (String × List BlockDef)) (more : List BlockDef) :
    List (String × List BlockDef) :=
  more.foldl (fun acc b =>
    if acc.any (·.1 == b.name) then acc.map fun (n, chain) => if n == b.name then (n, chain ++ [b]) else (n, chain)
    else acc ++ [(b.name, [b])]) blocks

/-- Where statements run: the library, whether printing escapes, the frame names are bound in,
whether the statements stand at the top level of their template, and how many calls deep they
run. -/
structure Env where
  lib : Library
  escapes : Bool
  frame : Nat
  top : Bool
  calls : Nat

namespace Heap

/-- The value of a name seen from a frame: bound in it or a frame around it, else `self`, else
a function of the language, else undefined. -/
def lookupName (frame : Nat) (name : String) : Eval Datum := do
  match ← lookup frame name with
  | some v => return v
  | Option.none =>
    if name == "self" then
      let ctx ← contextOf frame
      return .selfRef ctx (← context ctx).name
    else if Datum.builtinNames.contains name then return .builtin name
    else return .undefined s!"{Text.quote name} is undefined"

/-- Apply the filter of this name; a filter that does not exist fails here. -/
def filter (escapes : Bool) (name : String) (v : Datum) (args : List Datum)
    (named : List (String × Datum)) : Eval Datum := do
  unless Datum.filterNames.contains name do
    throw (.runtime s!"No filter named {Text.quote name} found.")
  let (a, n) ← resolvedArgs args named
  Datum.applyFilter escapes name (← resolved v) a n

/-- Apply the test of this name; a test that does not exist fails here. Two heap objects are
the same only when they are one object. -/
def test (name : String) (v : Datum) (args : List Datum) (named : List (String × Datum)) :
    Eval Bool := do
  unless Datum.testNames.contains name do
    throw (.runtime s!"No test named {Text.quote name} found.")
  match name, live v, args.map live with
  | "sameas", .ref a, [.ref b] => return a == b
  | "sameas", .ref _, _ => return false
  | "sameas", _, [.ref _] => return false
  | "callable", .ref id, _ =>
    match ← cell id with
    | .joiner .. | .loop _ => return true
    | _ => return false
  | "callable", .blockRef .., _ => return true
  | _, _, _ =>
    let (a, n) ← resolvedArgs args named
    Datum.test name (← resolved v) a n

/-- A new context for rendering a template from names. -/
def newContext (t : Compiled) (vars : List (String × Datum)) : Eval Nat :=
  alloc (.context { name := t.name, vars, blocks := t.blocks.map fun b => (b.name, [b]) })

/-- Run a computation with no `extends` in force, as macros, blocks and captured bodies run;
the state before is restored after. -/
def unextended {α : Type} (act : Eval α) : Eval α := do
  let saved := (← get).extended
  modify fun m => { m with extended := Option.none }
  let r ← act
  modify fun m => { m with extended := saved }
  return r

/-- The arguments of a macro call sorted out: each parameter with the value given for it, the
value of `caller` when the body uses it, the extra named arguments and the extra positional
ones. -/
structure MacroArgs where
  params : List (String × Option Datum)
  caller : Option Datum
  kwargs : List (String × Datum)
  varargs : List Datum

/-- Sort out the arguments of a macro call: positional ones fill the parameters in order, named
ones the parameters left; what remains goes to `varargs` and `kwargs` when the body uses them,
and otherwise fails. -/
def macroArgs (m : MacroDef) (args : List Datum) (named : List (String × Datum)) :
    Except Error MacroArgs := do
  let names := m.params.map (·.1)
  let count := names.length
  let given := args.take count
  let (filled, rest, foundCaller) :=
    if given.length != count then
      let later := names.drop given.length
      let (vals, rest) := later.foldl (fun (acc : List (String × Option Datum) × List (String × Datum)) n =>
        match acc.2.lookup n with
        | some v => (acc.1 ++ [(n, some v)], acc.2.filter (·.1 != n))
        | Option.none => (acc.1 ++ [(n, Option.none)], acc.2)) ([], named)
      ((names.zip given).map (fun (n, v) => (n, some v)) ++ vals, rest, later.contains "caller")
    else ((names.zip given).map (fun (n, v) => (n, some v)), named, names.contains "caller")
  let (caller, rest) :=
    if m.usesCaller && !foundCaller then
      match rest.lookup "caller" with
      | some c => (some c, rest.filter (·.1 != "caller"))
      | Option.none => (some (Datum.undefined "No caller defined"), rest)
    else (Option.none, rest)
  if !m.catchKwargs then
    match rest with
    | [] => pure ()
    | (k, _) :: _ =>
      if rest.any (·.1 == "caller") then
        throw (.mismatch s!"macro {Text.quote m.name} was invoked with two values for the special caller argument. This is most likely a bug.")
      throw (.mismatch s!"macro {Text.quote m.name} takes no keyword argument {Text.quote k}")
  if !m.catchVarargs && count < args.length then
    throw (.mismatch s!"macro {Text.quote m.name} takes not more than {count} argument(s)")
  return { params := filled, caller, kwargs := rest, varargs := args.drop count }

/-- Fail when a step reaching `d` calls goes deeper than the limit. -/
def reach (d : Nat) : Eval Unit := if Depth.callLimit < d then throw .tooDeep else pure ()

end Heap

open Heap in
mutual

/-- The value of an expression. -/
def eval : Nat → Env → Expr → Eval Datum
  | 0, _, _ => throw .tooDeep
  | fuel + 1, env, e =>
    match Fold.folded env.escapes e with
    | some v =>
      match Fold.unbound? v with
      | some n => throw (.unboundName n)
      | Option.none => store depth v
    | Option.none =>
    match e with
    | .const c => pure c.datum
    | .var n => lookupName env.frame n
    | .attr x n => do attrOf (← eval fuel env x) n
    | .index x k => do
      let v ← eval fuel env x
      itemOf v (← resolved (← eval fuel env k))
    | .slice x a b c => do
      let v ← resolved (← eval fuel env x)
      let bound (o : Option Expr) : Eval (Option Datum) :=
        match o with
        | some y => do return some (← resolved (← eval fuel env y))
        | Option.none => pure Option.none
      let lo ← bound a
      let hi ← bound b
      let st ← bound c
      Datum.slice v lo hi st
    | .call f args named => do
      let fv ← eval fuel env f
      let (avs, nvs) ← evalArgs fuel env args named
      call fuel env fv avs nvs
    | .filter x name args named => do
      let v ← eval fuel env x
      let (avs, nvs) ← evalArgs fuel env args named
      Heap.filter env.escapes name v avs nvs
    | .test x name args named => do
      let v ← eval fuel env x
      let (avs, nvs) ← evalArgs fuel env args named
      -- one place read twice is one object, unless each reading makes a new one
      let samePlace := match args, named with
        | [y], [] => x.samePlace y
        | _, _ => false
      if name == "sameas" && samePlace && !(v matches .undefined _ | .method ..) then
        return .bool true
      return .bool (← Heap.test name v avs nvs)
    | .not x => do return .bool !(← truthy (← eval fuel env x))
    | .neg x => do Datum.negate (← resolved (← eval fuel env x))
    | .pos x => do Datum.plus (← resolved (← eval fuel env x))
    | .and a b => do
      let av ← eval fuel env a
      if ← truthy av then eval fuel env b else return av
    | .or a b => do
      let av ← eval fuel env a
      if ← truthy av then return av else eval fuel env b
    | .arith op a b => do
      let av ← resolved (← eval fuel env a)
      let bv ← resolved (← eval fuel env b)
      Datum.operate op av bv
    | .concat parts => do
      let vs ← parts.mapM fun p => do resolved (← eval fuel env p)
      Datum.join env.escapes vs
    | .compare first rest => do compareChain fuel env (← eval fuel env first) rest
    | .cond test yes no => do
      if ← truthy (← eval fuel env test) then eval fuel env yes
      else match no with
        | some n => eval fuel env n
        | Option.none =>
          return .undefined "the inline if-expression evaluated to false and no else section was defined."
    | .list items => do store depth (.list (← items.mapM (eval fuel env)))
    | .tuple items => do return .tuple (← items.mapM (eval fuel env))
    | .dict pairs => do
      let kvs ← pairs.mapM fun (k, y) => do
        let kv ← resolved (← eval fuel env k)
        return (kv, ← eval fuel env y)
      let d ← kvs.foldlM (fun acc (k, v) => Datum.insert acc k v) []
      store depth (.dict d)
    | .spread _ | .spreadNamed _ => throw (.malformed "can't use starred expression here")

/-- The values of a call's arguments: the positional ones, then the items of an unpacked
sequence, and the named ones, then the entries of an unpacked mapping. A name given twice
fails. -/
def evalArgs : Nat → Env → List Expr → List (String × Expr) →
    Eval (List Datum × List (String × Datum))
  | 0, _, _, _ => throw .tooDeep
  | fuel + 1, env, args, named => do
    let plain := args.filter fun a => !(a matches .spread _ | .spreadNamed _)
    let avs ← plain.mapM (eval fuel env)
    let mut extra : List Datum := []
    for a in args do
      if let .spread x := a then
        let v ← resolved (← eval fuel env x)
        unless Datum.iterable v || v matches .undefined _ do
          throw (.mismatch s!"argument after * must be an iterable, not {v.typeName}")
        extra ← Datum.items v
    let nvs ← named.mapM fun (k, y) => do return (k, ← eval fuel env y)
    let mut more : List (String × Datum) := []
    for a in args do
      if let .spreadNamed x := a then
        match (← resolved (← eval fuel env x)).bare with
        | .dict pairs =>
          more ← pairs.mapM fun (k, v) => do
            match Datum.text? k with
            | some t => pure (t, v)
            | Option.none => throw (.mismatch "keywords must be strings")
        | .undefined hint => throw (Datum.undefinedError hint)
        | v => throw (.mismatch s!"argument after ** must be a mapping, not {v.typeName}")
    let all := nvs ++ more
    match all.find? fun (k, _) => (all.filter (·.1 == k)).length > 1 with
    | some (k, _) => throw (.mismatch s!"got multiple values for keyword argument {Text.quote k}")
    | Option.none => pure ()
    return (avs ++ extra, all)

/-- Whether every comparison of a chain holds, the left operand given; operands after the first
failing comparison are not evaluated. -/
def compareChain : Nat → Env → Datum → List (CompareOp × Expr) → Eval Datum
  | 0, _, _, _ => throw .tooDeep
  | fuel + 1, env, left, rest =>
    match rest with
    | [] => pure (.bool true)
    | (op, e) :: more => do
      let right ← eval fuel env e
      let l ← resolved left
      let r ← resolved right
      let ok : Bool ← match op with
        | .eq => Datum.equals l r
        | .ne => (! ·) <$> Datum.equals l r
        | .isIn => Datum.holdsItem r l
        | .notIn => (! ·) <$> Datum.holdsItem r l
        | op => Datum.holds op <$> Datum.order (Datum.opText op) l r
      if ok then compareChain fuel env right more else return .bool false

/-- The value of calling a value with arguments. -/
def call : Nat → Env → Datum → List Datum → List (String × Datum) → Eval Datum
  | 0, _, _, _, _ => throw .tooDeep
  | fuel + 1, env, f, args, named =>
    match live f with
    | .macroFn m closure => callMacro fuel env m closure args named
    | .method (.ref id) name => callObjectMethod id name args named
    | .method self name => do
      let (a, n) ← resolvedArgs args named
      Datum.callMethod (← resolved self) name a n
    | .builtin name => callGlobal name args named
    | .ref id => do
      match ← cell id with
      | .joiner sep used =>
        if used then return sep
        put id (.joiner sep true)
        return .str ""
      | .loop l =>
        match l.recurse, args with
        | some lb, [x] => do
          let src ← loopSource x
          let out ← runLoop fuel { env with calls := env.calls + Depth.loopCall } lb src (l.depth + 1) true
          return if lb.escapes then .safe out else .str out
        | some _, _ =>
          throw (.mismatch s!"LoopContext.__call__() takes 2 positional arguments but {args.length + 1} were given")
        | Option.none, _ =>
          throw (.mismatch "The loop must have the 'recursive' marker to be called recursively.")
      | .names _ => throw (.mismatch "'Namespace' object is not callable")
      | .cycler .. => throw (.mismatch "'Cycler' object is not callable")
      | .items _ => throw (.mismatch "'list' object is not callable")
      | .pairs _ => throw (.mismatch "'dict' object is not callable")
      | _ => throw (.mismatch "'object' object is not callable")
    | .blockRef name level ctx => do
      let out ← renderBlock fuel env.lib ctx name level ctx (env.calls + Depth.blockCall)
      return if escapesIn (← context ctx).name then .safe out else .str out
    | .undefined hint => throw (.undefined hint)
    | v => throw (.mismatch s!"{Text.quote v.typeName} object is not callable")

/-- Call a macro: its parameters bound in a new frame inside the one it was defined in, its body
rendered there; the text is safe when printing escapes where it is called. -/
def callMacro : Nat → Env → MacroDef → Nat → List Datum → List (String × Datum) → Eval Datum
  | 0, _, _, _, _, _ => throw .tooDeep
  | fuel + 1, env, m, closure, args, named => do
    let given ← macroArgs m args named
    let calls := env.calls + Depth.macroCall
    -- the body's first step goes one call below it
    reach (calls + 1)
    let frame ← openFrame closure
    let menv : Env := { lib := env.lib, escapes := m.escapes, frame, top := false, calls }
    for (p, v?) in given.params do
      let v ← match v? with
        | some v => pure v
        | Option.none =>
          match (m.params.lookup p).join with
          | some d => eval fuel menv d
          | Option.none => pure (.undefined s!"parameter {Text.quote p} was not provided")
      bind frame p (← store depth v) false
    if let some c := given.caller then bind frame "caller" c false
    if m.catchKwargs then
      bind frame "kwargs" (← store depth (.dict (given.kwargs.map fun (k, v) => (.str k, v)))) false
    if m.catchVarargs then bind frame "varargs" (← store depth (.tuple given.varargs)) false
    let out ← unextended (runAll fuel menv m.body)
    return if env.escapes then .safe out else .str out

/-- Run statements in order, giving what they write. -/
def runAll : Nat → Env → List Stmt → Eval String
  | 0, _, _ => throw .tooDeep
  | fuel + 1, env, stmts => stmts.foldlM (fun acc s => do return acc ++ (← run fuel env s)) ""

/-- Run one statement, giving what it writes. Once the rendering running has extended another
template, text and printed values are not written. -/
def run : Nat → Env → Stmt → Eval String
  | 0, _, _ => throw .tooDeep
  | fuel + 1, env, s => do
    let extended := (← get).extended.isSome
    let inner : Eval Env := do
      let frame ← openFrame env.frame
      return { env with frame, top := false }
    match s with
    | .text t => return if extended then "" else t
    | .output e =>
      if extended then return ""
      -- a constant is printed from its value computed ahead, if printing it succeeds
      let ahead := (Fold.printedValue env.escapes e).bind fun v =>
        match Datum.printed env.escapes v with
        | .ok t => some t
        | .error _ => Option.none
      match ahead with
      | some t => return t
      | Option.none =>
        let v ← resolved (← eval fuel env e)
        Datum.printed env.escapes v
    | .branch arms other =>
      let chosen ← arms.findM? fun (test, _) => do truthy (← eval fuel env test)
      match chosen with
      | some (_, body) => runAll fuel env body
      | Option.none => runAll fuel env other
    | .loop target items cond recursive body other => do
      let src ← loopSource (← eval fuel env items)
      let lb : LoopBody :=
        { target, cond, body, otherwise := other, frame := env.frame, escapes := env.escapes }
      -- a recursive loop runs as a function of its own
      runLoop fuel (if recursive then { env with calls := env.calls + 1 } else env) lb src 0 recursive
    | .assign target e => do
      let v ← eval fuel env e
      bindTarget env.frame true depth target v
      return ""
    | .capture target body => do
      let benv ← inner
      let out ← unextended (runAll fuel benv body)
      bindTarget env.frame true depth target (if env.escapes then .safe out else .str out)
      return ""
    | .macroDef name params body => do
      bind env.frame name (.macroFn (Check.macroOf name params body env.escapes) env.frame) true
      return ""
    | .callBlock params callExpr body => do
      let caller := Datum.macroFn (Check.macroOf "caller" params body env.escapes) env.frame
      match callExpr with
      | .call f args named => do
        let fv ← eval fuel env f
        let (avs, nvs) ← evalArgs fuel env args named
        let r ← call fuel env fv avs (nvs ++ [("caller", caller)])
        Datum.text (← resolved r)
      | _ => throw (.malformed "expected call")
    | .block name isScoped required _ => do
      if env.top && extended then return ""
      let ctx ← contextOf env.frame
      let chain := ((← context ctx).blocks.lookup name).getD []
      if required && chain.length ≤ 1 then
        throw (.runtime s!"Required block {Text.quote name} not found")
      renderBlock fuel env.lib ctx name 0 (if isScoped then env.frame else ctx) (env.calls + 1)
    | .extend e => do
      if extended then throw (.runtime "extended multiple times")
      let parent ← compileNamed env.lib (← resolved (← eval fuel env e)) (env.calls + Depth.toReading)
      let ctx ← contextOf env.frame
      let c ← context ctx
      put ctx (.context { c with blocks := appendBlocks c.blocks parent.blocks })
      modify fun m => { m with extended := some parent }
      return ""
    | .include e ignoreMissing withContext => do
      let name ← resolved (← eval fuel env e)
      match ← select env.lib name ignoreMissing (env.calls + Depth.toReading) with
      | Option.none => return ""
      | some t =>
        let vars ← if withContext then visible env.frame else pure []
        let ctx ← newContext t vars
        renderRoot fuel env.lib ctx t (env.calls + 1)
    | .importAll e boundName withContext => do
      let m ← moduleOf fuel env e withContext
      bind env.frame boundName m false
      return ""
    | .importSome e names withContext => do
      let m ← moduleOf fuel env e withContext
      let members := match m with
        | .module _ ms _ => ms
        | _ => []
      for (n, boundName) in names do
        let v := (members.lookup n).getD
          (.undefined s!"the template does not export the requested name {Text.quote n}")
        bind env.frame boundName v false
      return ""
    | .filtered chain body => do
      let benv ← inner
      let out ← runAll fuel benv body
      let start : Datum := if env.escapes then .safe out else .str out
      let v ← chain.foldlM (fun (acc : Datum) (f : FilterUse) => do
        let (avs, nvs) ← evalArgs fuel benv f.args f.named
        Heap.filter env.escapes f.name acc avs nvs) start
      Datum.text (← resolved v)
    | .scope bindings body => do
      let vals ← bindings.mapM fun (t, e) => do return (t, ← eval fuel env e)
      let benv ← inner
      for (t, v) in vals do bindTarget benv.frame false depth t v
      runAll fuel benv body
    | .autoescape e body => do
      let benv ← inner
      let on ← truthy (← eval fuel benv e)
      runAll fuel { benv with escapes := on } body

/-- Run a loop's body over the items of a source at a depth of recursion: the items that pass
its condition, each in a frame of its own with the target and `loop` bound, or its `else` part
when none does. A loop with a condition takes the items that pass it when it begins. -/
def runLoop : Nat → Env → LoopBody → LoopSource → Nat → Bool → Eval String
  | 0, _, _, _, _, _ => throw .tooDeep
  | fuel + 1, env, lb, src, level, recursive => do
    -- a recursive loop starts by making its loop object, two calls below it
    if recursive then reach (env.calls + 2)
    let lenv : Env := { env with escapes := lb.escapes, frame := lb.frame, top := false }
    let src ← match lb.cond with
      | Option.none => pure src
      | some c => do
        let xs ← sourceItems src
        let kept ← xs.filterM fun x => do
          let frame ← openFrame lb.frame
          bindTarget frame false depth lb.target x
          truthy (← eval fuel { lenv with frame } c)
        pure (LoopSource.fixed kept)
    let loopId ← alloc (.loop { source := src, depth := level,
                                recurse := if recursive then some lb else Option.none })
    let out ← loopSteps fuel lenv lb loopId ""
    match ← cell loopId with
    | .loop l =>
      if l.count == 0 then
        let frame ← openFrame lb.frame
        runAll fuel { lenv with frame } lb.otherwise
      else return out
    | _ => return out

/-- Run a loop's body for each item its source gives, in rounds: a round takes as many steps as
the source has items left when it begins, and a source that grew meanwhile is followed by
another round. The end is confirmed by one more step, which a dictionary whose size changed
fails. -/
def loopSteps : Nat → Env → LoopBody → Nat → String → Eval String
  | 0, _, _, _, _ => throw .tooDeep
  | fuel + 1, lenv, lb, loopId, acc => do
    let budget ← remaining loopId
    if budget == 0 then
      let _ ← advance loopId
      return acc
    let (acc, done) ← (List.range budget).foldlM (fun (st : String × Bool) _ => do
      if st.2 then return st
      match ← advance loopId with
      | Option.none => return (st.1, true)
      | some x =>
        let frame ← openFrame lb.frame [("loop", .ref loopId)]
        bindTarget frame false depth lb.target x
        return (st.1 ++ (← runAll fuel { lenv with frame } lb.body), false)) (acc, false)
    if done then return acc else loopSteps fuel lenv lb loopId acc

/-- Render the block of a name at a level of the chain of a rendering's blocks, in a frame
inside `parent`, where `super` is the block at the next level, `calls` calls deep. -/
def renderBlock : Nat → Library → Nat → String → Nat → Nat → Nat → Eval String
  | 0, _, _, _, _, _, _ => throw .tooDeep
  | fuel + 1, lib, ctx, name, level, parent, calls => do
    let chain := ((← context ctx).blocks.lookup name).getD []
    match chain[level]? with
    | Option.none => return ""
    | some b =>
      let sup ← blockAt ctx name (level + 1)
      let frame ← openFrame parent [("super", sup)]
      unextended (runAll fuel { lib, escapes := b.escapes, frame, top := false, calls } b.body)

/-- The module of the template an expression names: its exported names and what it wrote. -/
def moduleOf : Nat → Env → Expr → Bool → Eval Datum
  | 0, _, _, _ => throw .tooDeep
  | fuel + 1, env, e, withContext => do
    let t ← compileNamed env.lib (← resolved (← eval fuel env e)) (env.calls + Depth.toReading)
    let vars ← if withContext then visible env.frame else pure []
    let ctx ← newContext t vars
    let out ← renderRoot fuel env.lib ctx t (env.calls + Depth.importCall)
    let c ← context ctx
    let members := c.exported.filterMap fun n => (c.vars.lookup n).map (n, ·)
    return .module t.name members out

/-- Render a template in a context, `calls` calls deep: its statements at the top level, then
the template it extends, if it does, in the same context and one call deeper. -/
def renderRoot : Nat → Library → Nat → Compiled → Nat → Eval String
  | 0, _, _, _, _ => throw .tooDeep
  | fuel + 1, lib, ctx, t, calls => do
    let saved := (← get).extended
    modify fun m => { m with extended := Option.none }
    let out ← runAll fuel { lib, escapes := escapesIn t.name, frame := ctx, top := true, calls } t.stmts
    let parent := (← get).extended
    modify fun m => { m with extended := saved }
    match parent with
    | Option.none => return out
    | some p => return out ++ (← renderRoot fuel lib ctx p (calls + 1))

end

/-- How deep rendering may go. -/
def renderDepth : Nat := 3000

/-- Render the template with this name from the given names, for a fragment rendered `calls`
calls deep. -/
def render (lib : Library) (name : String) (names : Names) (calls : Nat) : Except Error String :=
  let go : Eval String := do
    let t ← compile lib name (calls + Depth.toReading)
    let vars ← names.mapM fun (k, v) => do return (k, ← Heap.store Heap.depth v)
    let ctx ← Heap.newContext t vars
    renderRoot renderDepth lib ctx t (calls + Depth.toRunning)
  (·.1) <$> go.run {}

end Template
end UiTags
