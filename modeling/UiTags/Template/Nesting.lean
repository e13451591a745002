import UiTags.Template.Syntax
import UiTags.Template.Error

/-!
# How deeply compiled templates nest

A template is compiled to functions of the language that runs it, and that compiler refuses code
that nests too deeply: a line indented `indentLimit` levels or more is refused as an indentation
error, and more than `loopLimit` loops open at once in one function as a syntax error. So a
template whose statements nest deeply enough fails to load, even where it would never run
those statements.

The template's top-level statements stand one level inside the function that renders it. Every
body stands one level inside its statement:

- an `if` arm, an `else` part, a loop body (which opens one more loop) and a macro's or `call`
  section's body (a function of its own, with no loop open) are indented one level;
- a macro with parameters sets their defaults one level inside its body;
- a loop's condition is a function of its own, whose test yields three levels in;
- a recursive loop is a function of its own whose loop is one level in;
- a block is a function of its own whose body stands at the first level;
- assigning a namespace attribute, `extends`, an `include` that passes the context on or that
  ignores a missing template, and a `from` import write one level deeper; `extends` and such
  an `include` open a loop, and ignoring a missing template handles a failure, which takes two
  open loops' room.

Capturing, filtered, `with` and `autoescape` bodies stand at the level of their statement.
-/

namespace UiTags
namespace Template

/-- How deeply compiled code nests: its deepest indentation and the most loops open at once in
one of its functions. -/
structure Nesting where
  indent : Nat
  loops : Nat
  deriving Repr, DecidableEq

namespace Nesting

/-- The deeper of two nestings, in each measure. -/
def max (a b : Nesting) : Nesting := ⟨Nat.max a.indent b.indent, Nat.max a.loops b.loops⟩

/-- Indentation from this many levels on is refused. -/
def indentLimit : Nat := 100

/-- More loops than this open at once in one function are refused. -/
def loopLimit : Nat := 20

/-- How deep the measures go into nested statements. -/
def depth : Nat := 1 <<< 20

mutual

/-- The nesting of statements at indentation `level` inside a function where `loops` loops are
open. A body always has a line of its own, so it reaches its level even when empty. -/
def ofStmts : Nat → Nat → Nat → List Stmt → Nesting
  | 0, level, loops, _ => ⟨level, loops⟩
  | fuel + 1, level, loops, stmts =>
    stmts.foldl (fun acc s => acc.max (ofStmt fuel level loops s)) ⟨level, loops⟩

/-- The nesting of one statement at indentation `level` inside a function where `loops` loops
are open. -/
def ofStmt : Nat → Nat → Nat → Stmt → Nesting
  | 0, level, loops, _ => ⟨level, loops⟩
  | fuel + 1, level, loops, s =>
    let here : Nesting := ⟨level, loops⟩
    let inner (body : List Stmt) : Nesting := ofStmts fuel (level + 1) loops body
    let function (params : List (String × Option Expr)) (body : List Stmt) : Nesting :=
      let defaults : Nesting := if params.isEmpty then here else ⟨level + 2, loops⟩
      defaults.max (ofStmts fuel (level + 1) 0 body)
    match s with
    | .branch arms other =>
      let start := if other.isEmpty then here else inner other
      arms.foldl (fun acc (_, body) => acc.max (inner body)) start
    | .loop _ _ cond recursive body other =>
      let test : Nesting := if cond.isSome then ⟨level + 3, Nat.max loops 1⟩ else here
      let run :=
        if recursive then
          (ofStmts fuel (level + 2) 1 body).max
            (if other.isEmpty then here else ofStmts fuel (level + 2) 0 other)
        else
          (ofStmts fuel (level + 1) (loops + 1) body).max
            (if other.isEmpty then here else inner other)
      test.max run
    | .assign target _ => if target matches .attr .. then ⟨level + 1, loops⟩ else here
    | .capture target body =>
      let write : Nesting := if target matches .attr .. then ⟨level + 1, loops⟩ else here
      write.max (ofStmts fuel level loops body)
    | .macroDef _ params body => function params body
    | .callBlock params _ body => function params body
    | .block _ _ required body =>
      let call : Nesting := if required then ⟨level + 1, loops⟩ else here
      call.max (ofStmts fuel 1 0 body)
    | .extend _ => ⟨level + 1, loops + 1⟩
    | .include _ ignoreMissing withContext =>
      if ignoreMissing then ⟨level + (if withContext then 2 else 1), loops + 2⟩
      else if withContext then ⟨level + 1, loops + 1⟩
      else here
    | .importSome _ names _ => if names.isEmpty then here else ⟨level + 1, loops⟩
    | .filtered _ body => ofStmts fuel level loops body
    | .scope _ body => ofStmts fuel level loops body
    | .autoescape _ body => ofStmts fuel level loops body
    | .text _ | .output _ | .importAll .. => here

end

/-- The nesting of a template's statements, which stand one level inside its function. -/
def ofTemplate (stmts : List Stmt) : Nesting := ofStmts depth 1 0 stmts

/-- Refuse a template whose compiled code nests too deeply. -/
def check (stmts : List Stmt) : Except Error Unit :=
  let n := ofTemplate stmts
  if indentLimit ≤ n.indent then
    .error (.raised "IndentationError" "too many levels of indentation")
  else if loopLimit < n.loops then
    .error (.raised "SyntaxError" "too many statically nested blocks")
  else .ok ()

end Nesting
end Template
end UiTags
