import UiTags.Template.Error

/-!
# Call depth

The engine that reads and runs templates stops any chain of nested calls that grows more than
`callLimit` calls deep, and the chain fails with a recursion error. Reading a nested expression,
running a recursive macro and printing, comparing or encoding a nested value are such chains,
so each step of them has a cost in calls, and a step fails when the depth it reaches passes the
limit.

A fragment of a top-level tag is rendered `fragment` calls deep, one call deeper for each tag
around it. Its template is read `toReading` calls below that and its statements run
`toRunning` calls below it.

The costs of running statements:

- a macro call, `caller()` among them, runs its body `macroCall` calls deeper;
- a call of a recursive loop runs the loop `loopCall` calls deeper;
- an included template runs one call deeper, an imported one `importCall` deeper, a template
  that is extended one deeper, a block one deeper and `super()` `blockCall` deeper.

Values are measured from the statements of a top-level tag's template: printing a value goes one
call deeper for each value inside another (`printRoom` levels fit), comparing two values one
call deeper for each pair compared (`compareRoom`), and encoding one as JSON one call deeper for
each list or dictionary (`jsonRoom`).
-/

namespace UiTags
namespace Template
namespace Depth

/-- The deepest chain of calls the engine runs. -/
def callLimit : Nat := 1000

/-- The depth of the call rendering the fragment of a tag that no other tag holds. -/
def fragment : Nat := 19

/-- Calls from rendering a fragment to reading the statements of its template. -/
def toReading : Nat := 7

/-- Calls from rendering a fragment to running the statements of its template. -/
def toRunning : Nat := 2

/-- Calls from a statement calling a macro to the macro's body. -/
def macroCall : Nat := 5

/-- Calls from a statement calling a recursive loop to the loop. -/
def loopCall : Nat := 4

/-- Calls from an `import` to the statements of the imported template. -/
def importCall : Nat := 4

/-- Calls from a statement calling a block, as `super()` does, to the block. -/
def blockCall : Nat := 4

/-- Fail when a chain reaching `d` calls is deeper than the limit. -/
def reach (d : Nat) : Except Error Unit :=
  if callLimit < d then .error .tooDeep else .ok ()

/-- The statements of a top-level tag's template run this deep. -/
def statements : Nat := fragment + toRunning

/-- How many values inside one another printing a value goes through: the text of each value
inside another is one call deeper, and the escaping of the printed text takes one more. -/
def printRoom : Nat := callLimit - statements - 1

/-- How many pairs inside one another comparing two values goes through. -/
def compareRoom : Nat := callLimit - statements

/-- How many lists and dictionaries inside one another encoding a value as JSON goes through:
the filter reaches the encoder six calls below the statements. -/
def jsonRoom : Nat := callLimit - statements - 6

end Depth
end Template
end UiTags
