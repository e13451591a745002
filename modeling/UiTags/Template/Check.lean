import UiTags.Template.Filters

/-!
# Checking templates before they run

A template that has been read is checked before it renders. Every filter and test it names must
exist, except inside an `if` statement's tests and branches and inside a conditional
expression, where a missing one fails only when it is used; no two blocks share a name; an
`extends` stands at the top level (possibly inside `if` branches); and a macro or `call` section
whose body uses `caller` and lists `caller` among its parameters gives it a default.

The blocks a template defines are found wherever they stand, and a macro's body is searched for
the special names it uses: `caller` (the body of a `call` section), `varargs` and `kwargs` (the
extra arguments). A name counts as used when the body reads it before anything binds it, and
the bodies of blocks are not searched.
-/

namespace UiTags
namespace Template
namespace Check

/-- How deep the checks go into nested statements and expressions. -/
def depth : Nat := 1 <<< 20

/-- The names an expression reads, in order, each with `true` (a read). -/
def exprUses : Nat → Expr → List (Bool × String)
  | 0, _ => []
  | fuel + 1, e =>
    let many (es : List Expr) : List (Bool × String) := (es.map (exprUses fuel)).flatten
    let opt (o : Option Expr) : List (Bool × String) := (o.map (exprUses fuel)).getD []
    match e with
    | .const _ => []
    | .var n => [(true, n)]
    | .attr x _ => exprUses fuel x
    | .index x k => exprUses fuel x ++ exprUses fuel k
    | .slice x a b c => exprUses fuel x ++ opt a ++ opt b ++ opt c
    | .call f args named => exprUses fuel f ++ many args ++ many (named.map (·.2))
    | .filter x _ args named => exprUses fuel x ++ many args ++ many (named.map (·.2))
    | .test x _ args named => exprUses fuel x ++ many args ++ many (named.map (·.2))
    | .not x | .neg x | .pos x | .spread x | .spreadNamed x => exprUses fuel x
    | .and a b | .or a b | .arith _ a b => exprUses fuel a ++ exprUses fuel b
    | .concat parts => many parts
    | .compare first rest => exprUses fuel first ++ many (rest.map (·.2))
    | .cond test yes no => exprUses fuel test ++ exprUses fuel yes ++ opt no
    | .list items | .tuple items => many items
    | .dict pairs => (pairs.map fun (k, v) => exprUses fuel k ++ exprUses fuel v).flatten

/-- The names a target binds, each with `false` (a binding). -/
def targetUses : Nat → Target → List (Bool × String)
  | 0, _ => []
  | fuel + 1, t =>
    match t with
    | .one n => [(false, n)]
    | .attr .. => []
    | .many ts => (ts.map (targetUses fuel)).flatten

/-- The names parameters bind, then the names their defaults read. -/
def paramUses (fuel : Nat) (params : List (String × Option Expr)) : List (Bool × String) :=
  params.map (fun p => (false, p.1)) ++
    (params.map fun p => (p.2.map (exprUses fuel)).getD []).flatten

/-- The names statements read and bind, in the order they are met, leaving out block bodies. -/
def stmtUses : Nat → List Stmt → List (Bool × String)
  | 0, _ => []
  | fuel + 1, stmts =>
    let exprs (es : List Expr) : List (Bool × String) := (es.map (exprUses fuel)).flatten
    let filterUses (chain : List FilterUse) : List (Bool × String) :=
      (chain.map fun f => exprs f.args ++ exprs (f.named.map (·.2))).flatten
    (stmts.map fun s =>
      match s with
      | .text _ => []
      | .output e => exprUses fuel e
      | .branch arms other =>
        (arms.map fun (t, b) => exprUses fuel t ++ stmtUses fuel b).flatten ++ stmtUses fuel other
      | .loop target items cond _ body other =>
        targetUses fuel target ++ exprUses fuel items ++ stmtUses fuel body ++
          stmtUses fuel other ++ (cond.map (exprUses fuel)).getD []
      | .assign target e => targetUses fuel target ++ exprUses fuel e
      | .capture target body => targetUses fuel target ++ stmtUses fuel body
      | .macroDef _ params body => paramUses fuel params ++ stmtUses fuel body
      | .callBlock params call body =>
        exprUses fuel call ++ paramUses fuel params ++ stmtUses fuel body
      | .block .. => []
      | .extend e | .include e .. | .importAll e .. | .importSome e .. => exprUses fuel e
      | .filtered chain body => stmtUses fuel body ++ filterUses chain
      | .scope bindings body =>
        (bindings.map fun (t, _) => targetUses fuel t).flatten ++
          exprs (bindings.map (·.2)) ++ stmtUses fuel body
      | .autoescape e body => exprUses fuel e ++ stmtUses fuel body).flatten

/-- Whether a body uses a name: reads it before anything binds it. -/
def uses (body : List Stmt) (name : String) : Bool :=
  match (stmtUses depth body).find? (·.2 == name) with
  | some (read, _) => read
  | none => false

/-- A macro with this name, parameters and body, defined in a template that escapes printed
values when `escapes` holds; the special names its body uses decide which extra arguments it
takes. -/
def macroOf (name : String) (params : List (String × Option Expr)) (body : List Stmt)
    (escapes : Bool) : MacroDef :=
  let special (n : String) : Bool := uses body n && !params.any (·.1 == n)
  { name, params, body, escapes,
    catchKwargs := special "kwargs", catchVarargs := special "varargs",
    usesCaller := uses body "caller" }

/-- The blocks statements define, wherever they stand, each before the blocks inside it. -/
def blocksOf : Nat → List Stmt → List (String × List Stmt)
  | 0, _ => []
  | fuel + 1, stmts =>
    (stmts.map fun s =>
      match s with
      | .block name _ _ body => (name, body) :: blocksOf fuel body
      | .branch arms other =>
        (arms.map fun (_, b) => blocksOf fuel b).flatten ++ blocksOf fuel other
      | .loop _ _ _ _ body other => blocksOf fuel body ++ blocksOf fuel other
      | .capture _ body | .macroDef _ _ body | .callBlock _ _ body | .filtered _ body
      | .scope _ body | .autoescape _ body => blocksOf fuel body
      | _ => []).flatten

/-- Fail unless every filter and test an expression names exists; within a conditional
expression, or where `soft` holds, missing ones are left to fail when used. -/
def names : Nat → Bool → Expr → Except Error Unit
  | 0, _, _ => .ok ()
  | fuel + 1, soft, e => do
    let many (es : List Expr) : Except Error Unit := es.forM (names fuel soft)
    match e with
    | .const _ | .var _ => pure ()
    | .attr x _ | .not x | .neg x | .pos x | .spread x | .spreadNamed x => names fuel soft x
    | .index x k => do names fuel soft x; names fuel soft k
    | .slice x a b c => many (x :: [a, b, c].filterMap id)
    | .call f args named => many (f :: args ++ named.map (·.2))
    | .filter x name args named =>
      unless soft || Datum.filterNames.contains name do
        throw (.unknownName s!"No filter named {Text.quote name}.")
      many (x :: args ++ named.map (·.2))
    | .test x name args named =>
      unless soft || Datum.testNames.contains name do
        throw (.unknownName s!"No test named {Text.quote name}.")
      many (x :: args ++ named.map (·.2))
    | .and a b | .or a b | .arith _ a b => many [a, b]
    | .concat parts | .list parts | .tuple parts => many parts
    | .compare first rest => many (first :: rest.map (·.2))
    | .cond test yes no => (test :: yes :: no.toList).forM (names fuel true)
    | .dict pairs => many (pairs.map (·.1) ++ pairs.map (·.2))

/-- Fail when parameters list `caller` without a default while the body uses it. -/
def callerParam (params : List (String × Option Expr)) (body : List Stmt) : Except Error Unit :=
  if uses body "caller" && params.any (fun p => p.1 == "caller" && p.2.isNone) then
    .error (.unknownName "When defining macros or call blocks the special caller argument must be omitted or be given a default.")
  else .ok ()

/-- Check statements: `soft` inside `if` statements, `top` at the top level of the
template. -/
def stmts : Nat → Bool → Bool → List Stmt → Except Error Unit
  | 0, _, _, _ => .ok ()
  | fuel + 1, soft, top, body =>
    let inner (b : List Stmt) : Except Error Unit := stmts fuel false false b
    let chain (fs : List FilterUse) : Except Error Unit :=
      fs.forM fun f => do
        unless Datum.filterNames.contains f.name do
          throw (.unknownName s!"No filter named {Text.quote f.name}.")
        (f.args ++ f.named.map (·.2)).forM (names fuel false)
    let params (ps : List (String × Option Expr)) : Except Error Unit :=
      (ps.filterMap (·.2)).forM (names fuel false)
    body.forM fun s =>
      match s with
      | .text _ => pure ()
      | .output e | .assign _ e | .include e .. | .importAll e .. | .importSome e .. =>
        names fuel soft e
      | .branch arms other => do
        arms.forM fun (t, b) => do
          names fuel true t
          stmts fuel true top b
        stmts fuel true top other
      | .loop _ items cond _ b other => do
        names fuel soft items
        cond.forM (names fuel false)
        inner b
        inner other
      | .capture _ b => inner b
      | .macroDef _ ps b => do
        callerParam ps b
        params ps
        inner b
      | .callBlock ps call b => do
        callerParam ps b
        names fuel soft call
        params ps
        inner b
      | .block _ _ _ b => inner b
      | .extend e => do
        unless top do throw (.unknownName "cannot use extend from a non top-level scope")
        names fuel soft e
      | .filtered fs b => do
        inner b
        chain fs
      | .scope bindings b => do
        (bindings.map (·.2)).forM (names fuel soft)
        inner b
      | .autoescape e b => do
        names fuel false e
        inner b

/-- Check a template's statements, and that no two of its blocks share a name. -/
def template (body : List Stmt) : Except Error Unit := do
  let blockNames := (blocksOf depth body).map (·.1)
  let rec twice : List String → List String → Option String
    | [], _ => none
    | n :: rest, seen => if seen.contains n then some n else twice rest (n :: seen)
  if let some n := twice blockNames [] then
    throw (.unknownName s!"block {Text.quote n} defined twice")
  stmts depth false true body

end Check
end Template
end UiTags
