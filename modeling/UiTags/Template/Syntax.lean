import UiTags.Number.Binary64

/-!
# Template syntax

The expressions and statements of the template language.

Expressions are constants, names, attribute and item access (with slices), calls with
positional and named arguments, filters (`value|name(args)`) and tests (`value is name args`),
the logical operators `not`, `and`, `or`, arithmetic, text joining with `~`, chained
comparisons (with `in` and `not in`), the conditional `a if c else b`, and list, tuple and
dictionary displays.

Statements are literal text, printed expressions, `if` with `elif` and `else` arms, `for` loops
(with a condition on the items, an `else` part for no items, and optionally recursive),
assignments (`set`, also of a rendered body, and of an attribute of a namespace), macro
definitions, `call` sections that hand their body to a macro as its caller, named blocks and
`extends`, `include`, `import` of a whole template or of names from it, `filter` sections,
`with` scopes and `autoescape` sections.
-/

namespace UiTags
namespace Template

/-- A constant written in a template. -/
inductive Const where
  | none
  | bool (b : Bool)
  | int (n : Int)
  | float (x : Binary64)
  | str (s : String)
  deriving Repr, Inhabited

/-- The arithmetic operators. -/
inductive ArithOp where
  | add
  | sub
  | mul
  | div
  | floorDiv
  | mod
  | pow
  deriving DecidableEq, Repr, Inhabited

/-- The comparison operators, membership included. -/
inductive CompareOp where
  | eq
  | ne
  | lt
  | le
  | gt
  | ge
  | isIn
  | notIn
  deriving DecidableEq, Repr, Inhabited

/-- An expression. -/
inductive Expr where
  | const (c : Const)
  | var (name : String)
  /-- `e.name`: an attribute, or else an item of that name. -/
  | attr (e : Expr) (name : String)
  /-- `e[key]`: an item, or else an attribute of that name. -/
  | index (e : Expr) (key : Expr)
  /-- `e[start:stop:step]`. -/
  | slice (e : Expr) (start stop step : Option Expr)
  | call (f : Expr) (args : List Expr) (named : List (String × Expr))
  /-- `e|name(args)`. -/
  | filter (e : Expr) (name : String) (args : List Expr) (named : List (String × Expr))
  /-- `e is name(args)`. -/
  | test (e : Expr) (name : String) (args : List Expr) (named : List (String × Expr))
  | not (e : Expr)
  | neg (e : Expr)
  | pos (e : Expr)
  | and (a b : Expr)
  | or (a b : Expr)
  | arith (op : ArithOp) (a b : Expr)
  /-- `a ~ b ~ …`: the texts of the parts joined. -/
  | concat (parts : List Expr)
  /-- `a op₁ b op₂ c …`: every comparison holds. -/
  | compare (first : Expr) (rest : List (CompareOp × Expr))
  /-- `yes if test else no`; without `else` the value is undefined when the test fails. -/
  | cond (test yes : Expr) (no : Option Expr)
  | list (items : List Expr)
  | tuple (items : List Expr)
  | dict (pairs : List (Expr × Expr))
  /-- `*e` at the end of a call's positional arguments: the items of `e` are passed too. -/
  | spread (e : Expr)
  /-- `**e` after a call's named arguments: the entries of the mapping `e` are passed too. -/
  | spreadNamed (e : Expr)
  deriving Repr, Inhabited

/-- What an assignment or a loop binds: a name, an attribute of a namespace, or several
targets taken from the items of a sequence. -/
inductive Target where
  | one (name : String)
  | attr (obj field : String)
  | many (items : List Target)
  deriving Repr, Inhabited

/-- A filter applied by a `filter` section: its name and arguments. -/
structure FilterUse where
  name : String
  args : List Expr
  named : List (String × Expr)
  deriving Repr, Inhabited

/-- A statement. -/
inductive Stmt where
  | text (s : String)
  | output (e : Expr)
  /-- `if` arms in order, and the `else` part. -/
  | branch (arms : List (Expr × List Stmt)) (otherwise : List Stmt)
  /-- A `for` loop over the items that satisfy the condition; `otherwise` runs when there
  are none. A recursive loop may run its body again over other items. -/
  | loop (target : Target) (items : Expr) (cond : Option Expr) (recursive : Bool)
      (body otherwise : List Stmt)
  | assign (target : Target) (e : Expr)
  /-- `set target` with a body: the rendered body is assigned. -/
  | capture (target : Target) (body : List Stmt)
  /-- A macro: its parameters with their defaults, and its body. -/
  | macroDef (name : String) (params : List (String × Option Expr)) (body : List Stmt)
  /-- A `call` section: the call, made with the body as a macro named `caller` taking the
  parameters given. -/
  | callBlock (params : List (String × Option Expr)) (call : Expr) (body : List Stmt)
  /-- A named block; a scoped one sees the names around it, a required one must be given by
  an extending template. -/
  | block (name : String) (isScoped required : Bool) (body : List Stmt)
  | extend (parent : Expr)
  | include (e : Expr) (ignoreMissing withContext : Bool)
  | importAll (e : Expr) (boundName : String) (withContext : Bool)
  /-- `from e import a as b, …`: each name with the name it is bound to. -/
  | importSome (e : Expr) (names : List (String × String)) (withContext : Bool)
  /-- A body rendered and then passed through filters. -/
  | filtered (chain : List FilterUse) (body : List Stmt)
  /-- A `with` scope: bindings visible in the body only. -/
  | scope (bindings : List (Target × Expr)) (body : List Stmt)
  /-- An `autoescape` section: the body printed with escaping as the expression says. -/
  | autoescape (e : Expr) (body : List Stmt)
  deriving Repr, Inhabited

/-- Whether two expressions read one place: the same name, or the same attribute or constant
key of one place. Reading a place twice gives one object. -/
def Expr.samePlace : Expr → Expr → Bool
  | .var a, .var b => a == b
  | .attr x a, .attr y b => a == b && x.samePlace y
  | .index x (.const (.int i)), .index y (.const (.int j)) => i == j && x.samePlace y
  | .index x (.const (.str i)), .index y (.const (.str j)) => i == j && x.samePlace y
  | _, _ => false

end Template
end UiTags
