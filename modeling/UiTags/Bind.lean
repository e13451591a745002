import UiTags.Text.Basic
import UiTags.Text.Case
import UiTags.Script.Identifier

/-!
# Bind expressions

A bind expression names where an element's content comes from. After trimming:

* `cfc:` (any letter case), optional blanks, a path of word characters, `$` and `.` whose last
  `.` has a nonempty part on each side, optional blanks, and an argument list in parentheses
  that is blank or comma-separated script names, then optional blanks, is a component call;
* any other `cfc:` text is generic;
* `url:` (any letter case) and a URL is a URL;
* text holding a `/`, or starting with `http` in any letter case, is a URL as it stands;
* anything else is generic. A generic expression keeps the text exactly as given.
-/

namespace UiTags

/-- A parsed bind expression. -/
inductive Bind where
  /-- A remote component method call with the names of its arguments. -/
  | call (path method : String) (params : List String)
  /-- A URL fetched as it stands. -/
  | url (target : String)
  /-- An expression of no known form, kept as given. -/
  | generic (raw : String)
  deriving DecidableEq, Repr, Inhabited

namespace Bind

/-- Whether a character may stand in a component path. -/
def isPathChar (c : Char) : Bool := Text.isWordChar c || c == '$' || c == '.'

/-- The argument names of a call: none for a blank list, otherwise the trimmed pieces between
commas, each of which must be a script name. -/
def params? (args : List Char) : Option (List String) :=
  let body := Text.trimBy Text.isBlank args
  if body.isEmpty then some []
  else
    (Text.splitChars ',' body).mapM fun piece =>
      let name := String.ofList (Text.trimBy Text.isBlank piece)
      if Script.isIdentifier name then some name else none

/-- The component call written after the `cfc:` prefix. -/
def call? (afterPrefix : List Char) : Option Bind :=
  let cs := afterPrefix.dropWhile Text.isBlank
  let target := cs.takeWhile isPathChar
  let r := (cs.drop target.length).dropWhile Text.isBlank
  match r with
  | '(' :: inner =>
    let args := inner.takeWhile fun c => c != '(' && c != ')'
    match inner.drop args.length with
    | ')' :: tail =>
      if !target.isEmpty && tail.all Text.isBlank then
        match Text.splitLast '.' target with
        | some (path, method) =>
          if path.isEmpty || method.isEmpty then none
          else (params? args).map fun ps => call (String.ofList path) (String.ofList method) ps
        | none => none
      else none
    | _ => none
  | _ => none

/-- Whether the lowered first four characters of a text are `pre`. -/
def hasPrefix (cs : List Char) (pre : String) : Bool :=
  Text.lower (String.ofList (cs.take 4)) == pre

/-- Parse a bind expression. -/
def parse (expr : String) : Bind :=
  let text := Text.trimBy Text.isBlank expr.toList
  if hasPrefix text "cfc:" then (call? (text.drop 4)).getD (generic expr)
  else if hasPrefix text "url:" then url (String.ofList (Text.trimBy Text.isBlank (text.drop 4)))
  else if text.contains '/' || (Text.lower (String.ofList text)).startsWith "http" then
    url (String.ofList text)
  else generic expr

/-- The warning logged for an expression that parses as generic. -/
def warning? (expr : String) : Option String :=
  match parse expr with
  | generic _ =>
    if hasPrefix (Text.trimBy Text.isBlank expr.toList) "cfc:" then
      some s!"Malformed cfc bind expression, falling back to generic: {expr}"
    else some s!"Unsupported bind expression: {expr}"
  | _ => none

/-- The name of the kind of an expression in answers. -/
def kindName : Bind → String
  | call .. => "cfc"
  | url _ => "url"
  | generic _ => "generic"

end Bind
end UiTags
