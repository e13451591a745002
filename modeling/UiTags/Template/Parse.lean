import UiTags.Template.Token
import UiTags.Template.Syntax
import UiTags.Template.Depth

/-!
# Reading templates

A template's tokens read as a list of statements. Expressions follow the usual precedence, from
the loosest: the conditional `a if c else b`, `or`, `and`, `not`, comparisons (which chain),
`+` and `-`, joining with `~`, `*`, `/`, `//` and `%`, then `**` (which groups to the left),
signs, and last the postfix forms: attributes, items, slices, calls, filters and tests. A
filter or test applies to the whole signed operand before it.

A statement tag starts with its keyword; a tag that opens a body is matched by its closing tag
(`endif`, `endfor`, …), and a keyword that no statement has is refused, as is a closing tag
that nothing opened. Every reader takes a depth bound, which a template cannot exceed since
each level reads at least one token.

Reading also runs at a depth of calls in the engine that reads templates, whose chains of calls
are bounded (`Depth.callLimit`). Each reader runs a fixed number of calls below the one that
called it, following the grammar: an operand of each precedence level is one call below the
level above it, so a bracketed expression is thirteen calls below the one around it and an
argument of a call, filter or test or a subscript fourteen; a statement's body is four calls
below the body around it. Taking the next token goes three calls below the reader (four when its
kind is checked), and a template whose reading goes deeper than the limit fails as too deep.
-/

namespace UiTags
namespace Template

/-- A reader of template tokens, running at a depth of calls. -/
abbrev Parser := ReaderT Nat (StateT (List Token) (Except Error))

namespace Parser

/-- The next token, if any. -/
def peek : Parser (Option Token) := do return (← get).head?

/-- The token after the next one, if any. -/
def peekSecond : Parser (Option Token) := do return ((← get).drop 1).head?

/-- Fail when a step this many calls below the reader goes deeper than the limit. -/
def reach (cost : Nat) : Parser Unit := do
  if Depth.callLimit < (← read) + cost then throw .tooDeep

/-- Read with a reader this many calls deeper. -/
def deeper {α : Type} (calls : Nat) (p : Parser α) : Parser α := withReader (· + calls) p

/-- Pass over the next token. -/
def advance : Parser Unit := do
  reach 3
  modify List.tail

/-- Pass over the next token, once its kind is known. -/
def take : Parser Unit := do
  reach 4
  modify List.tail

/-- Refuse the template. -/
def fail {α : Type} (msg : String) : Parser α := throw (.malformed msg)

/-- Whether the next token is this operator. -/
def atOp (s : String) : Parser Bool := do return (← peek) == some (.op s)

/-- Whether the next token is this name. -/
def atName (s : String) : Parser Bool := do return (← peek) == some (.name s)

/-- Pass over the next token if it is this operator, saying whether it was. -/
def skipOp (s : String) : Parser Bool := do
  if ← atOp s then
    take
    return true
  else return false

/-- Pass over the next token if it is this name, saying whether it was. -/
def skipName (s : String) : Parser Bool := do
  if ← atName s then
    take
    return true
  else return false

/-- Pass over this operator, which must come next. -/
def expectOp (s : String) : Parser Unit := do
  unless ← skipOp s do fail s!"expected token {Text.quote s}"

/-- Pass over this name, which must come next. -/
def expectName (s : String) : Parser Unit := do
  unless ← skipName s do fail s!"expected token {Text.quote s}"

/-- Pass over the closing of a statement tag, which must come next. -/
def expectStmtClose : Parser Unit := do
  if (← peek) == some .stmtClose then take else fail "expected token end of statement block"

/-- Pass over the closing of an output tag, which must come next. -/
def expectOutputClose : Parser Unit := do
  if (← peek) == some .outputClose then take else fail "expected token end of print statement"

/-- Read a name. -/
def anyName : Parser String := do
  match ← peek with
  | some (.name n) =>
    take
    return n
  | _ => fail "expected token name"

/-- Adjacent quoted texts, which join into one, and the tokens after them. -/
def texts : List Token → String × List Token
  | .str s :: rest =>
    let (more, r) := texts rest
    (s ++ more, r)
  | ts => ("", ts)

/-- Whether the next token ends a tuple: a closing tag or bracket, or one of the given names. -/
def atTupleEnd (ends : List String) : Parser Bool := do
  match ← peek with
  | some .outputClose | some .stmtClose | some (.op ")") => return true
  | some (.name n) => return ends.contains n
  | _ => return false

/-- Whether a token can start the argument of a test written without brackets. -/
def startsTestArg : Option Token → Bool
  | some (.name n) => n != "else" && n != "or" && n != "and"
  | some (.str _) | some (.int _) | some (.float _) => true
  | some (.op "(") | some (.op "[") | some (.op "\x7b") => true
  | _ => false

/-- The operator of a comparison token. -/
def compareOp? : Option Token → Option CompareOp
  | some (.op "==") => some .eq
  | some (.op "!=") => some .ne
  | some (.op "<") => some .lt
  | some (.op "<=") => some .le
  | some (.op ">") => some .gt
  | some (.op ">=") => some .ge
  | _ => none

/-- The operator of a multiplicative token. -/
def productOp? : Option Token → Option ArithOp
  | some (.op "*") => some .mul
  | some (.op "/") => some .div
  | some (.op "//") => some .floorDiv
  | some (.op "%") => some .mod
  | _ => none

/-- The constant a name stands for, if it is one. -/
def nameConst? : String → Option Const
  | "true" | "True" => some (.bool true)
  | "false" | "False" => some (.bool false)
  | "none" | "None" => some .none
  | _ => none

/-- A slice bound, or a plain subscript. -/
inductive Subscript where
  | plain (e : Expr)
  | range (start stop step : Option Expr)

/-! ## Expressions -/

/-- The arguments of a call read so far: positional ones, named ones, and the unpacked
sequence (`*e`) and mapping (`**e`), if given. -/
structure CallArgs where
  args : List Expr := []
  named : List (String × Expr) := []
  rest : Option Expr := none
  restNamed : Option Expr := none

mutual

/-- An expression, with conditionals when `withCond`. -/
def expression : Nat → Bool → Parser Expr
  | 0, _ => throw .tooDeep
  | fuel + 1, withCond => deeper 1 (if withCond then condExpr fuel else orExpr fuel)

/-- `a if c else b`, grouping to the right. -/
def condExpr : Nat → Parser Expr
  | 0 => throw .tooDeep
  | fuel + 1 => do
    let e ← deeper 1 (orExpr fuel)
    condTail fuel e

/-- The conditional parts after a first operand. -/
def condTail : Nat → Expr → Parser Expr
  | 0, _ => throw .tooDeep
  | fuel + 1, e => do
    if ← skipName "if" then
      let test ← deeper 1 (orExpr fuel)
      let no ← if ← skipName "else" then some <$> deeper 1 (condExpr fuel) else pure none
      condTail fuel (.cond test e no)
    else pure e

/-- Operands joined by `or`. -/
def orExpr : Nat → Parser Expr
  | 0 => throw .tooDeep
  | fuel + 1 => do
    let a ← deeper 1 (andExpr fuel)
    orTail fuel a

/-- The `or` parts after a first operand. -/
def orTail : Nat → Expr → Parser Expr
  | 0, _ => throw .tooDeep
  | fuel + 1, a => do
    if ← skipName "or" then
      let b ← deeper 1 (andExpr fuel)
      orTail fuel (.or a b)
    else pure a

/-- Operands joined by `and`. -/
def andExpr : Nat → Parser Expr
  | 0 => throw .tooDeep
  | fuel + 1 => do
    let a ← deeper 1 (notExpr fuel)
    andTail fuel a

/-- The `and` parts after a first operand. -/
def andTail : Nat → Expr → Parser Expr
  | 0, _ => throw .tooDeep
  | fuel + 1, a => do
    if ← skipName "and" then
      let b ← deeper 1 (notExpr fuel)
      andTail fuel (.and a b)
    else pure a

/-- An operand, negated by each `not` before it. -/
def notExpr : Nat → Parser Expr
  | 0 => throw .tooDeep
  | fuel + 1 => do
    if (← peek) == some (.name "not") then
      advance
      return .not (← deeper 1 (notExpr fuel))
    else deeper 1 (compareExpr fuel)

/-- A chain of comparisons. -/
def compareExpr : Nat → Parser Expr
  | 0 => throw .tooDeep
  | fuel + 1 => do
    let first ← deeper 1 (sumExpr fuel)
    let rest ← compareTail fuel
    return if rest.isEmpty then first else .compare first rest

/-- The comparisons after a first operand. -/
def compareTail : Nat → Parser (List (CompareOp × Expr))
  | 0 => throw .tooDeep
  | fuel + 1 => do
    let next ← peek
    match compareOp? next with
    | some op =>
      advance
      let e ← deeper 1 (sumExpr fuel)
      return (op, e) :: (← compareTail fuel)
    | none =>
      if next == some (.name "in") then
        advance
        let e ← deeper 1 (sumExpr fuel)
        return (.isIn, e) :: (← compareTail fuel)
      else if next == some (.name "not") && (← peekSecond) == some (.name "in") then
        advance
        advance
        let e ← deeper 1 (sumExpr fuel)
        return (.notIn, e) :: (← compareTail fuel)
      else return []

/-- Operands joined by `+` and `-`. -/
def sumExpr : Nat → Parser Expr
  | 0 => throw .tooDeep
  | fuel + 1 => do
    let a ← deeper 1 (joinExpr fuel)
    sumTail fuel a

/-- The `+` and `-` parts after a first operand. -/
def sumTail : Nat → Expr → Parser Expr
  | 0, _ => throw .tooDeep
  | fuel + 1, a => do
    if ← skipOp "+" then
      let b ← deeper 1 (joinExpr fuel)
      sumTail fuel (.arith .add a b)
    else if ← skipOp "-" then
      let b ← deeper 1 (joinExpr fuel)
      sumTail fuel (.arith .sub a b)
    else pure a

/-- Operands joined by `~`. -/
def joinExpr : Nat → Parser Expr
  | 0 => throw .tooDeep
  | fuel + 1 => do
    let a ← deeper 1 (productExpr fuel)
    let more ← joinTail fuel
    return if more.isEmpty then a else .concat (a :: more)

/-- The operands after each `~`. -/
def joinTail : Nat → Parser (List Expr)
  | 0 => throw .tooDeep
  | fuel + 1 => do
    if ← skipOp "~" then
      let b ← deeper 1 (productExpr fuel)
      return b :: (← joinTail fuel)
    else return []

/-- Operands joined by `*`, `/`, `//` and `%`. -/
def productExpr : Nat → Parser Expr
  | 0 => throw .tooDeep
  | fuel + 1 => do
    let a ← deeper 1 (powerExpr fuel)
    productTail fuel a

/-- The multiplicative parts after a first operand. -/
def productTail : Nat → Expr → Parser Expr
  | 0, _ => throw .tooDeep
  | fuel + 1, a => do
    match productOp? (← peek) with
    | some op =>
      advance
      let b ← deeper 1 (powerExpr fuel)
      productTail fuel (.arith op a b)
    | none => pure a

/-- Operands joined by `**`, grouping to the left. -/
def powerExpr : Nat → Parser Expr
  | 0 => throw .tooDeep
  | fuel + 1 => do
    let a ← deeper 1 (unary fuel true)
    powerTail fuel a

/-- The `**` parts after a first operand. -/
def powerTail : Nat → Expr → Parser Expr
  | 0, _ => throw .tooDeep
  | fuel + 1, a => do
    if ← skipOp "**" then
      let b ← deeper 1 (unary fuel true)
      powerTail fuel (.arith .pow a b)
    else pure a

/-- A signed operand with its postfix forms, and its filters and tests when `withFilter`. -/
def unary : Nat → Bool → Parser Expr
  | 0, _ => throw .tooDeep
  | fuel + 1, withFilter => do
    let e ← if ← atOp "-" then do advance; Expr.neg <$> deeper 1 (unary fuel false)
      else if ← atOp "+" then do advance; Expr.pos <$> deeper 1 (unary fuel false)
      else deeper 1 (primary fuel)
    let e ← deeper 1 (trailers fuel e)
    if withFilter then deeper 1 (filters fuel e) else pure e

/-- A constant, a name, or a bracketed form. -/
def primary : Nat → Parser Expr
  | 0 => throw .tooDeep
  | fuel + 1 => do
    match ← peek with
    | some (.name n) =>
      advance
      return match nameConst? n with
        | some c => .const c
        | none => .var n
    | some (.str _) =>
      let (s, rest) := texts (← get)
      set rest
      return .const (.str s)
    | some (.int n) =>
      advance
      return .const (.int n)
    | some (.float x) =>
      advance
      return .const (.float x)
    | some (.op "(") =>
      advance
      let e ← deeper 1 (tuple fuel false true true [])
      expectOp ")"
      return e
    | some (.op "[") =>
      return .list (← deeper 1 do take; listItems fuel)
    | some (.op "\x7b") =>
      return .dict (← deeper 1 do take; dictItems fuel)
    | some _ => fail "unexpected token"
    | none => fail "unexpected end of template"

/-- Expressions separated by commas, a tuple when a comma follows one of them. `simplified`
reads plain operands only; `explicit` allows the empty tuple; `ends` names extra words that
end the tuple. -/
def tuple : Nat → Bool → Bool → Bool → List String → Parser Expr
  | 0, _, _, _, _ => throw .tooDeep
  | fuel + 1, simplified, withCond, explicit, ends => do
    let (items, isTuple) ← tupleItems fuel simplified withCond ends true
    if isTuple then return .tuple items
    match items with
    | [e] => return e
    | _ =>
      if explicit then return .tuple []
      else fail "Expected an expression"

/-- The items of a tuple, and whether a comma followed one of them. -/
def tupleItems : Nat → Bool → Bool → List String → Bool → Parser (List Expr × Bool)
  | 0, _, _, _, _ => throw .tooDeep
  | fuel + 1, simplified, withCond, ends, first => do
    unless first do expectOp ","
    if ← atTupleEnd ends then return ([], !first)
    let e ← if simplified then deeper 1 (primary fuel)
      else deeper (if withCond then 1 else 2) (expression fuel withCond)
    if ← atOp "," then
      let (rest, _) ← tupleItems fuel simplified withCond ends false
      return (e :: rest, true)
    else return ([e], !first)

/-- The items of a list display after its opening bracket. -/
def listItems : Nat → Parser (List Expr)
  | 0 => throw .tooDeep
  | fuel + 1 => do
    if ← skipOp "]" then return []
    let e ← deeper 1 (expression fuel true)
    if ← skipOp "," then return e :: (← listItems fuel)
    expectOp "]"
    return [e]

/-- The pairs of a dictionary display after its opening brace. -/
def dictItems : Nat → Parser (List (Expr × Expr))
  | 0 => throw .tooDeep
  | fuel + 1 => do
    if ← skipOp "\x7d" then return []
    let k ← deeper 1 (expression fuel true)
    expectOp ":"
    let v ← deeper 1 (expression fuel true)
    if ← skipOp "," then return (k, v) :: (← dictItems fuel)
    expectOp "\x7d"
    return [(k, v)]

/-- Attributes, items, slices and calls after an operand. -/
def trailers : Nat → Expr → Parser Expr
  | 0, _ => throw .tooDeep
  | fuel + 1, e => do
    match ← peek with
    | some (.op ".") =>
      let e ← deeper 1 do
        advance
        match ← peek with
        | some (.name n) =>
          advance
          pure (Expr.attr e n)
        | some (.int n) =>
          advance
          pure (Expr.index e (.const (.int n)))
        | _ => fail "expected name or number"
      trailers fuel e
    | some (.op "[") =>
      let subs ← deeper 1 do
        advance
        subscripts fuel
      match subs with
      | [.plain k] => trailers fuel (.index e k)
      | [.range a b c] => trailers fuel (.slice e a b c)
      | _ =>
        let keys := subs.filterMap fun | .plain k => some k | .range .. => none
        if keys.length == subs.length then trailers fuel (.index e (.tuple keys))
        else fail "slices inside a tuple are not supported"
    | some (.op "(") =>
      let (args, named) ← deeper 2 (callArgs fuel)
      trailers fuel (.call e args named)
    | _ => pure e

/-- Filters, tests and calls after an operand. -/
def filters : Nat → Expr → Parser Expr
  | 0, _ => throw .tooDeep
  | fuel + 1, e => do
    match ← peek with
    | some (.op "|") =>
      let f ← deeper 1 do
        advance
        filterUse fuel
      filters fuel (.filter e f.name f.args f.named)
    | some (.name "is") =>
      let t ← deeper 1 do
        advance
        let negated ← skipName "not"
        let name ← dottedName fuel
        let (args, named) ← if ← atOp "(" then deeper 1 (callArgs fuel)
          else if startsTestArg (← peek) then do
            if ← atName "is" then fail "You cannot chain multiple tests with is"
            let a ← deeper 1 (primary fuel)
            let a ← deeper 1 (trailers fuel a)
            pure ([a], [])
          else pure ([], [])
        let t := Expr.test e name args named
        pure (if negated then Expr.not t else t)
      filters fuel t
    | some (.op "(") =>
      let (args, named) ← deeper 2 (callArgs fuel)
      filters fuel (.call e args named)
    | _ => pure e

/-- A filter's name and arguments, after its bar. -/
def filterUse : Nat → Parser FilterUse
  | 0 => throw .tooDeep
  | fuel + 1 => do
    let name ← dottedName fuel
    let (args, named) ← if ← atOp "(" then deeper 1 (callArgs fuel) else pure ([], [])
    return { name, args, named }

/-- A name with dotted parts. -/
def dottedName : Nat → Parser String
  | 0 => throw .tooDeep
  | fuel + 1 => do
    let n ← anyName
    if ← skipOp "." then return n ++ "." ++ (← dottedName fuel)
    else return n

/-- The subscripts between brackets, after the opening one. -/
def subscripts : Nat → Parser (List Subscript)
  | 0 => throw .tooDeep
  | fuel + 1 => do
    if ← skipOp "]" then return []
    let s ← deeper 1 (subscript fuel)
    if ← skipOp "," then return s :: (← subscripts fuel)
    expectOp "]"
    return [s]

/-- One subscript: an expression or a slice `start:stop:step` with any part left out. -/
def subscript : Nat → Parser Subscript
  | 0 => throw .tooDeep
  | fuel + 1 => do
    let bound : Parser (Option Expr) := do
      match ← peek with
      | some (.op ":") | some (.op "]") | some (.op ",") => pure none
      | _ => some <$> deeper 1 (expression fuel true)
    let start ← bound
    if !(← skipOp ":") then
      match start with
      | some e => return .plain e
      | none => fail "expected an expression"
    let stop ← bound
    let step ← if ← skipOp ":" then bound else pure none
    return .range start stop step

/-- The arguments of a call from its opening bracket to its closing one: positional ones
first, then named ones, with one unpacked sequence after the positional ones and one
unpacked mapping last. The unpacked forms come at the end of the positional arguments. -/
def callArgs : Nat → Parser (List Expr × List (String × Expr))
  | 0 => throw .tooDeep
  | fuel + 1 => do
    take
    let c ← gatherArgs fuel {} false
    return (c.args ++ c.rest.toList.map .spread ++ c.restNamed.toList.map .spreadNamed, c.named)

/-- Read a call's arguments into `c` until the closing bracket; `comma` says one must come
first. -/
def gatherArgs : Nat → CallArgs → Bool → Parser CallArgs
    | 0, _, _ => throw .tooDeep
    | fuel + 1, c, comma => do
      if ← skipOp ")" then return c
      if comma then
        expectOp ","
        if ← skipOp ")" then return c
      let ensure (ok : Bool) : Parser Unit :=
        unless ok do fail "invalid syntax for function call expression"
      let next ← peek
      let second ← peekSecond
      if next == some (.op "*") then
        ensure (c.rest.isNone && c.restNamed.isNone)
        advance
        let v ← deeper 1 (expression fuel true)
        gatherArgs fuel { c with rest := some v } true
      else if next == some (.op "**") then
        ensure c.restNamed.isNone
        advance
        let v ← deeper 1 (expression fuel true)
        gatherArgs fuel { c with restNamed := some v } true
      else match next, second with
        | some (.name n), some (.op "=") => do
          ensure c.restNamed.isNone
          advance
          advance
          let v ← deeper 1 (expression fuel true)
          gatherArgs fuel { c with named := c.named ++ [(n, v)] } true
        | _, _ => do
          ensure (c.rest.isNone && c.restNamed.isNone && c.named.isEmpty)
          let v ← deeper 1 (expression fuel true)
          gatherArgs fuel { c with args := c.args ++ [v] } true

end

/-! ## Statements -/

/-- What an expression binds when it is assigned to: a name, or a tuple of targets. -/
def targetOf : Nat → Expr → Option Target
  | 0, _ => none
  | _ + 1, .var n => some (.one n)
  | fuel + 1, .tuple items => (items.mapM (targetOf fuel)).map .many
  | _ + 1, _ => none

/-- Read an assignment target, ended by one of the given names or a closing. -/
def assignTarget (fuel : Nat) (ends : List String) : Parser Target := do
  let e ← deeper 1 (tuple fuel true true false ends)
  match targetOf fuel e with
  | some t => return t
  | none => fail "can't assign to this expression"

/-- Read the target of a `set`: a namespace attribute `name.attr`, or an assignment target. -/
def setTarget (fuel : Nat) : Parser Target := do
  match ← peek, ← peekSecond with
  | some (.name n), some (.op ".") =>
    advance
    advance
    return .attr n (← anyName)
  | _, _ => assignTarget fuel []

/-- Whether a required block's body is only blank text. -/
def blankBody (body : List Stmt) : Bool :=
  body.all fun s => match s with
    | .text t => !t.isEmpty && t.all Text.isBlank
    | _ => false

/-- Whether an import passes the context on: `with context`, `without context`, or as
given. -/
def importContext (default : Bool) : Parser Bool := do
  let next ← peek
  if (next == some (.name "with") || next == some (.name "without")) &&
      (← peekSecond) == some (.name "context") then
    advance
    advance
    return next == some (.name "with")
  else return default

/-- The names of a `from` import, each with the name it binds, and whether it passes the
context on. -/
def importNames : Nat → Bool → Parser (List (String × String) × Bool)
  | 0, _ => throw .tooDeep
  | fuel + 1, first => do
    unless first do expectOp ","
    match ← peek with
    | some (.name n) =>
      if (n == "with" || n == "without") && (← peekSecond) == some (.name "context") then
        return ([], ← importContext false)
      advance
      if n.startsWith "_" then fail "names starting with an underline can not be imported"
      let boundName ← if ← skipName "as" then anyName else pure n
      let next ← peek
      if (next == some (.name "with") || next == some (.name "without")) &&
          (← peekSecond) == some (.name "context") then
        return ([(n, boundName)], ← importContext false)
      if ← atOp "," then
        let (rest, ctx) ← importNames fuel false
        return ((n, boundName) :: rest, ctx)
      return ([(n, boundName)], false)
    | _ => fail "expected token name"

/-- The parameters of a macro after its opening bracket, with their defaults; `seenDefault`
says an earlier parameter had one. -/
def params : Nat → Bool → Bool → Parser (List (String × Option Expr))
  | 0, _, _ => throw .tooDeep
  | fuel + 1, first, seenDefault => do
    if ← skipOp ")" then return []
    unless first do
      expectOp ","
      if ← skipOp ")" then fail "expected token name"
    let n ← anyName
    let d ← if ← skipOp "=" then some <$> deeper 1 (expression fuel true) else pure none
    if d.isNone && seenDefault then fail "non-default argument follows default argument"
    return (n, d) :: (← params fuel false (seenDefault || d.isSome))

/-- The filters of a `filter` section: the first without a bar, the others after one. -/
def filterChain : Nat → Parser (List FilterUse)
  | 0 => throw .tooDeep
  | fuel + 1 => do
    let f ← filterUse fuel
    if ← skipOp "|" then return f :: (← filterChain fuel) else return [f]

/-- The bindings of a `with` scope. -/
def bindings : Nat → Bool → Parser (List (Target × Expr))
  | 0, _ => throw .tooDeep
  | fuel + 1, first => do
    if (← peek) == some .stmtClose then return []
    unless first do expectOp ","
    let t ← deeper 1 (assignTarget fuel [])
    expectOp "="
    let v ← deeper 1 (expression fuel true)
    return (t, v) :: (← bindings fuel false)

/-- The expressions of a `print` statement. -/
def printed : Nat → Bool → Parser (List Expr)
  | 0, _ => throw .tooDeep
  | fuel + 1, first => do
    if (← peek) == some .stmtClose then return []
    unless first do expectOp ","
    let e ← deeper 1 (expression fuel true)
    return e :: (← printed fuel false)

mutual

/-- Statements up to one of the closing tags named, and the closing tag met (its name is left
to read). With no names, statements up to the end of the template. -/
def body : Nat → List String → Parser (List Stmt × Option String)
  | 0, _ => throw .tooDeep
  | fuel + 1, ends => do
    match ← peek with
    | none =>
      if ends.isEmpty then return ([], none)
      else fail s!"Unexpected end of template, looking for {Text.commaList (ends.map Text.quote)}."
    | some (.text s) =>
      advance
      let (rest, e) ← body fuel ends
      return (.text s :: rest, e)
    | some .outputOpen =>
      advance
      let e ← deeper 1 (tuple fuel false true false [])
      expectOutputClose
      let (rest, en) ← body fuel ends
      return (.output e :: rest, en)
    | some .stmtOpen =>
      advance
      match ← peek with
      | some (.name n) =>
        if ends.contains n then return ([], some n)
        let s ← deeper 2 (statement fuel n)
        expectStmtClose
        let (rest, e) ← body fuel ends
        return (s ++ rest, e)
      | _ => fail "tag name expected"
    | some _ => fail "unexpected token"

/-- The body of a statement after its opening tag's tokens, up to one of the closing tags
named, and the closing tag met. -/
def sectionOf : Nat → List String → Parser (List Stmt × String)
  | 0, _ => throw .tooDeep
  | fuel + 1, ends => do
    let _ ← skipOp ":"
    expectStmtClose
    match ← deeper 1 (body fuel ends) with
    | (b, some e) => return (b, e)
    | (_, none) => fail "Unexpected end of template"

/-- The statement that starts with this keyword, which is the next token. -/
def statement : Nat → String → Parser (List Stmt)
  | 0, _ => throw .tooDeep
  | fuel + 1, keyword => do
    advance
    match keyword with
    | "for" =>
      let target ← deeper 1 (assignTarget fuel ["in"])
      expectName "in"
      let items ← deeper 1 (tuple fuel false false false ["recursive"])
      let cond ← if ← skipName "if" then some <$> deeper 1 (expression fuel true) else pure none
      let recursive ← skipName "recursive"
      let (b, e) ← deeper 1 (sectionOf fuel ["endfor", "else"])
      advance
      if e == "else" then
        let (other, _) ← deeper 1 (sectionOf fuel ["endfor"])
        advance
        return [.loop target items cond recursive b other]
      return [.loop target items cond recursive b []]
    | "if" =>
      let test ← deeper 1 (tuple fuel false false false [])
      let (b, e) ← deeper 1 (sectionOf fuel ["elif", "else", "endif"])
      arms fuel [(test, b)] e
    | "set" =>
      let target ← deeper 1 (setTarget fuel)
      if ← skipOp "=" then
        let e ← deeper 1 (tuple fuel false true false [])
        return [.assign target e]
      let chain ← if ← skipOp "|" then deeper 1 (filterChain fuel) else pure []
      let (b, _) ← deeper 1 (sectionOf fuel ["endset"])
      advance
      return [.capture target (if chain.isEmpty then b else [.filtered chain b])]
    | "macro" =>
      let name ← anyName
      expectOp "("
      let ps ← deeper 1 (params fuel true false)
      let (b, _) ← deeper 1 (sectionOf fuel ["endmacro"])
      advance
      return [.macroDef name ps b]
    | "call" =>
      let ps ← if ← skipOp "(" then deeper 1 (params fuel true false) else pure []
      let callExpr ← deeper 1 (expression fuel true)
      unless callExpr matches .call .. do fail "expected call"
      let (b, _) ← deeper 1 (sectionOf fuel ["endcall"])
      advance
      return [.callBlock ps callExpr b]
    | "block" =>
      let name ← anyName
      let isScoped ← skipName "scoped"
      let required ← skipName "required"
      if ← atOp "-" then
        fail "Block names may not contain hyphens."
      let (b, _) ← deeper 1 (sectionOf fuel ["endblock"])
      if required && !blankBody b then
        fail "Required blocks can only contain comments or whitespace"
      advance
      let _ ← skipName name
      return [.block name isScoped required b]
    | "extends" => return [.extend (← deeper 1 (expression fuel true))]
    | "include" =>
      let e ← deeper 1 (expression fuel true)
      let ignore ← if (← atName "ignore") && (← peekSecond) == some (.name "missing") then do
          advance
          advance
          pure true
        else pure false
      return [.include e ignore (← importContext true)]
    | "import" =>
      let e ← deeper 1 (expression fuel true)
      expectName "as"
      let boundName ← anyName
      return [.importAll e boundName (← importContext false)]
    | "from" =>
      let e ← deeper 1 (expression fuel true)
      expectName "import"
      let (names, ctx) ← importNames fuel true
      return [.importSome e names ctx]
    | "with" =>
      let bs ← bindings fuel true
      let (b, _) ← deeper 1 (sectionOf fuel ["endwith"])
      advance
      return [.scope bs b]
    | "filter" =>
      let chain ← deeper 1 (filterChain fuel)
      let (b, _) ← deeper 1 (sectionOf fuel ["endfilter"])
      advance
      return [.filtered chain b]
    | "autoescape" =>
      let e ← deeper 1 (expression fuel true)
      let (b, _) ← deeper 1 (sectionOf fuel ["endautoescape"])
      advance
      return [.autoescape e b]
    | "print" => return (← printed fuel true).map .output
    | _ => fail s!"Encountered unknown tag {Text.quote keyword}."

/-- The arms of an `if` statement after its first, from the closing tag met. -/
def arms : Nat → List (Expr × List Stmt) → String → Parser (List Stmt)
  | 0, _, _ => throw .tooDeep
  | fuel + 1, acc, e => do
    advance
    if e == "elif" then
      let test ← deeper 1 (tuple fuel false false false [])
      let (b, e') ← deeper 1 (sectionOf fuel ["elif", "else", "endif"])
      arms fuel (acc ++ [(test, b)]) e'
    else if e == "else" then
      let (b, _) ← deeper 1 (sectionOf fuel ["endif"])
      advance
      return [.branch acc b]
    else return [.branch acc []]

end

end Parser

/-- The statements of a template, or why it cannot be read. -/
def parse (source : String) (reading : Nat) : Except Error (List Stmt) := do
  let tokens ← Token.scan source
  let fuel := 32 * (tokens.length + 1)
  let ((stmts, _), rest) ← ((Parser.body fuel []).run reading).run tokens
  if rest.isEmpty then return stmts else throw (.malformed "unexpected token")

end Template
end UiTags
