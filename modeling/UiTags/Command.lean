import UiTags.Tree.Read
import UiTags.Config.Load
import UiTags.Json.Read
import UiTags.Json.Pretty
import UiTags.Console.Table
import UiTags.Page
import UiTags.Bind
import UiTags.Text.Integer

/-!
# The command line

Four commands, after an optional `--verbose` (or `-V`):

* `render SOURCE [-o FILE] [-c CONFIG] [-t DIR]` renders the tag tree held as JSON in `SOURCE`
  (one node or a list of nodes) with the settings of `CONFIG`, or of `compat-ui.toml` when no
  file is named; a settings file that does not exist gives the defaults. The document goes to
  `FILE`, or to the output followed by a line break.
* `bind EXPRESSION` prints how a bind expression reads, as indented JSON.
* `paginate TOTAL PAGE SIZE` prints the page's figures as a table, and says so when the page
  holds no rows.
* `version` prints the name and version.

The error stream carries the log: every line with `--verbose`, only warnings without. A file
that cannot be read, a document that cannot be rendered and paging that cannot be done are
reported there too, and end the run with code 1.

A run is a function of the arguments and the files it can see; it gives the exit code, both
streams and the files after it.
-/

namespace UiTags
namespace Command

/-- Files as a run sees them: paths relative to its working directory, with their texts. -/
abbrev Files := List (String × String)

/-- What a run gives back: the exit code, both streams, the files after it, and the class of
the exception that stopped it, if one did. -/
structure Outcome where
  code : Nat
  stdout : String
  stderr : String
  files : Files
  exception : Option String := none

/-- The options of the render command. -/
structure RenderOptions where
  source : String
  output : Option String := none
  config : Option String := none
  templates : Option String := none

/-- A command line as read. -/
inductive Invocation where
  | render (verbose : Bool) (opts : RenderOptions)
  | bind (verbose : Bool) (expr : String)
  | paginate (verbose : Bool) (total page size : Int)
  | version
  /-- A command line that cannot be read, and why. -/
  | usage (reason : String)

/-! ## Reading the command line -/

/-- Split the arguments of a command into options with their values and positional ones.
`valued` names the options that take a value (long names, and short letters); `--` ends the
options. -/
def splitArgs (valued : List (String × Char)) :
    List String → Except String (List (String × String) × List String)
  | [] => .ok ([], [])
  | "--" :: rest => .ok ([], rest)
  | a :: rest =>
    if a.startsWith "--" then
      let body := a.toList.drop 2
      let name := String.ofList (body.takeWhile (· != '='))
      match valued.find? (·.1 == name) with
      | none => .error s!"No such option: {a}"
      | some _ =>
        if body.contains '=' then
          (splitArgs valued rest).map fun (os, ps) =>
            ((name, String.ofList ((body.dropWhile (· != '=')).drop 1)) :: os, ps)
        else match rest with
          | v :: rest' => (splitArgs valued rest').map fun (os, ps) => ((name, v) :: os, ps)
          | [] => .error s!"Option '{a}' requires an argument."
    else if a.startsWith "-" && a.length > 1 then
      match a.toList with
      | _ :: c :: more =>
        match valued.find? (·.2 == c) with
        | none => .error s!"No such option: {a}"
        | some (name, _) =>
          if !more.isEmpty then
            (splitArgs valued rest).map fun (os, ps) => ((name, String.ofList more) :: os, ps)
          else match rest with
            | v :: rest' => (splitArgs valued rest').map fun (os, ps) => ((name, v) :: os, ps)
            | [] => .error s!"Option '{a}' requires an argument."
      | _ => .error s!"No such option: {a}"
    else (splitArgs valued rest).map fun (os, ps) => (os, a :: ps)

/-- The last value given for an option. -/
def lastValue (opts : List (String × String)) (name : String) : Option String :=
  ((opts.filter (·.1 == name)).getLast?).map (·.2)

/-- Read the arguments of a command. -/
def ofCommand (verbose : Bool) : String → List String → Invocation
  | "render", args =>
    match splitArgs [("output", 'o'), ("config", 'c'), ("templates", 't')] args with
    | .error e => .usage e
    | .ok (opts, [source]) =>
      .render verbose
        { source := source, output := lastValue opts "output",
          config := lastValue opts "config", templates := lastValue opts "templates" }
    | .ok (_, []) => .usage "Missing argument 'SOURCE'."
    | .ok (_, _) => .usage "Got unexpected extra argument."
  | "bind", args =>
    match splitArgs [] args with
    | .error e => .usage e
    | .ok (_, [expr]) => .bind verbose expr
    | .ok (_, []) => .usage "Missing argument 'EXPRESSION'."
    | .ok (_, _) => .usage "Got unexpected extra argument."
  | "paginate", args =>
    match splitArgs [] args with
    | .error e => .usage e
    | .ok (_, [t, p, s]) =>
      match Text.readInt? t, Text.readInt? p, Text.readInt? s with
      | some t, some p, some s => .paginate verbose t p s
      | _, _, _ => .usage "Invalid value: not a valid integer."
    | .ok (_, _) => .usage "Expected three integers."
  | "version", args =>
    match splitArgs [] args with
    | .ok (_, []) => .version
    | .ok _ => .usage "Got unexpected extra argument."
    | .error e => .usage e
  | name, _ => .usage s!"No such command '{name}'."

/-- Read a command line. -/
def parse : List String → Invocation
  | [] => .usage "Missing command."
  | a :: rest =>
    if a == "--verbose" || a == "-V" then
      match rest with
      | c :: args => ofCommand true c args
      | [] => .usage "Missing command."
    else if a.startsWith "-" then .usage s!"No such option: {a}"
    else ofCommand false a rest

/-! ## Files -/

/-- The names of the templates a template directory may replace. -/
def templateNames : List String :=
  ["_macros.html", "ajax_import.html", "div.html", "grid.html", "grid_update.html",
   "layout.html", "pod.html", "scripts/_base.js", "scripts/_macros.js",
   "scripts/ajax_import.js", "scripts/ajax_on_load.js", "scripts/ajax_proxy.js",
   "scripts/div.js", "scripts/grid.js", "scripts/grid_update.js", "scripts/layout.js",
   "scripts/pod.js"]

/-- A path as it is written back: repeated slashes and `.` parts dropped, no trailing slash. -/
def pathText (p : String) : String :=
  let parts := (p.splitOn "/").filter fun s => !s.isEmpty && s != "."
  let body := "/".intercalate parts
  if p.startsWith "/" then "/" ++ body
  else if body.isEmpty then "." else body

/-- Whether a path names a directory: some file lies below it. -/
def isDir (files : Files) (p : String) : Bool :=
  let p := pathText p
  p == "." || files.any fun f => (pathText f.1).startsWith (p ++ "/")

/-- A file's text with its line breaks made line feeds, or why it cannot be read. -/
def readText (files : Files) (p : String) : Except String String :=
  let p := pathText p
  if isDir files p then .error s!"[Errno 21] Is a directory: {Text.quote p}"
  else match files.find? (pathText ·.1 == p) with
    | some (_, text) =>
      .ok (Text.replaceText "\r" "\n" (Text.replaceText "\r\n" "\n" text))
    | none => .error s!"[Errno 2] No such file or directory: {Text.quote p}"

/-- Whether a file exists. -/
def exists? (files : Files) (p : String) : Bool :=
  isDir files p || files.any (pathText ·.1 == pathText p)

/-- Write a file: its text replaced, or the file added. -/
def writeFile (files : Files) (p : String) (text : String) : Files :=
  let p := pathText p
  if files.any (pathText ·.1 == p) then files.map fun f => if pathText f.1 == p then (f.1, text) else f
  else files ++ [(p, text)]

/-- The templates of a template directory, each named by its path inside the directory, with
its line breaks made line feeds. -/
def templatesIn (files : Files) (dir : String) : List (String × String) :=
  let d := pathText dir
  files.filterMap fun (p, text) =>
    let p := pathText p
    let name := if d == "." then some p
      else if p.startsWith (d ++ "/") then some (String.ofList (p.toList.drop (d.length + 1)))
      else none
    name.map fun n => (n, Text.replaceText "\r" "\n" (Text.replaceText "\r\n" "\n" text))

/-! ## Commands -/

/-- The log lines shown: all of them when verbose, else the warnings. -/
def shown (verbose : Bool) (log : List LogLine) : String :=
  String.join ((log.filter fun l => verbose || l.level.isWarning).map (·.render ++ "\n"))

/-- Terminal control sequences (an escape, `[`, digits, `;` or `?`, then a letter) removed. -/
def stripControls : Nat → List Char → List Char
  | 0, cs => cs
  | _, [] => []
  | fuel + 1, '\x1b' :: '[' :: rest =>
    let params := rest.takeWhile fun c => c == ';' || c == '?' || c.isDigit
    match rest.drop params.length with
    | c :: more =>
      if c.isAlpha then stripControls fuel more
      else '\x1b' :: stripControls fuel ('[' :: rest)
    | [] => '\x1b' :: '[' :: rest
  | fuel + 1, c :: rest => c :: stripControls fuel rest

/-- A message as the command echoes it: without terminal control sequences, ending a line. -/
def echo (message : String) : String :=
  String.ofList (stripControls message.length message.toList) ++ "\n"

/-- A run that ends with code 1 and a message on the error stream after the log. -/
def failed (files : Files) (log : String) (message : String) : Outcome :=
  { code := 1, stdout := "", stderr := log ++ echo message, files }

/-- A run stopped by an exception, with nothing more written. -/
def stopped (files : Files) (log : String) (cls : String) : Outcome :=
  { code := 1, stdout := "", stderr := log, files, exception := some cls }

/-- The deepest nesting of brackets and braces outside quoted text in the first `n` characters
of a JSON text. -/
def nesting (n : Nat) (cs : List Char) : Nat :=
  let rec go : Nat → List Char → Bool → Bool → Nat → Nat → Nat
    | 0, _, _, _, _, best => best
    | _, [], _, _, _, best => best
    | k + 1, c :: rest, inString, escaped, depth, best =>
      if inString then
        if escaped then go k rest true false depth best
        else if c == '\\' then go k rest true true depth best
        else go k rest (c != '"') false depth best
      else if c == '"' then go k rest true false depth best
      else if c == '[' || c == '\x7b' then go k rest false false (depth + 1) (max best (depth + 1))
      else if c == ']' || c == '\x7d' then go k rest false false (depth - 1) best
      else go k rest false false depth best
  go n cs false false 0 0

/-- How deep the reader may nest arrays and objects before the interpreter's recursion limit
stops it. -/
def nestingLimit : Nat := 984

/-- The text of each file as it reads back, its line breaks made line feeds. -/
def readBack (text : String) : String := Text.lineFeeds text

/-- The files a run created or changed, as they read back: those whose text differs from what
was given. A given file with carriage returns reads back changed. -/
def written (given after : Files) : Files :=
  (after.map fun f => (f.1, readBack f.2)).filter fun f => given.lookup f.1 != some f.2

/-- Whether a failure is one the render command reports; the others (a settings value of the
wrong kind, a template that cannot be read or rendered) end the run without a word, as does a
settings path that is a directory. -/
def reported (f : Failure) : Bool :=
  f.kind != .attributeError && f.kind != .typeError && f.kind != .templateError &&
    f.kind != .recursionError

/-- Render a document described as JSON. -/
def render (verbose : Bool) (o : RenderOptions) (files : Files) : Outcome :=
  let source := pathText o.source
  match readText files source with
  | .error e => failed files "" s!"Error reading {source}: {e}"
  | .ok text =>
    let read := Json.read text
    let seen := match read with
      | .error e => e.pos + 1
      | .ok _ => text.length
    if nestingLimit ≤ nesting seen text.toList then stopped files "" "RecursionError" else
    match read with
    | .error e =>
      if e.unconvertible then stopped files "" "ValueError"
      else failed files "" s!"Error reading {source}: {e.message text}"
    | .ok data =>
      match Node.read data with
      | .error issues => failed files "" s!"Invalid tag tree: {Node.report issues}"
      | .ok nodes =>
        let configPath := (o.config.map pathText).getD "compat-ui.toml"
        let loaded : Except (Option Failure) Config :=
          if exists? files configPath then
            match readText files configPath with
            | .ok t => (Config.load Config.commandRoom t).mapError some
            | .error _ => .error none
          else .ok {}
        match loaded with
        | .error (some f) =>
          if reported f then failed files "" s!"Render error: {f.message}"
          else stopped files "" f.exceptionName
        | .error none => stopped files "" "IsADirectoryError"
        | .ok config =>
          match Document.create config with
          | .error f => failed files "" s!"Render error: {f.message}"
          | .ok d =>
            let templates := match o.templates with
              | some dir => if isDir files dir then templatesIn files dir else []
              | none => []
            let (d, result) := { d with templates }.renderAll nodes
            let log := shown verbose d.log
            match result with
            | .error f =>
              if reported f then failed files log s!"Render error: {f.message}"
              else stopped files log f.exceptionName
            | .ok html =>
              match o.output with
              | none =>
                if Text.hasLone html then stopped files log "UnicodeEncodeError"
                else { code := 0, stdout := echo html, stderr := log, files }
              | some out =>
                let out := pathText out
                let parent := pathText (String.ofList ((out.toList.reverse.dropWhile (· != '/')).reverse))
                if isDir files out then stopped files log "IsADirectoryError"
                else if !(parent == "." || out.startsWith "/" || isDir files parent) then
                  stopped files log "FileNotFoundError"
                else if Text.hasLone html then
                  { stopped files log "UnicodeEncodeError" with files := writeFile files out "" }
                else
                  let wrote : LogLine :=
                    ⟨.info, .commandLine, s!"Wrote {html.length} characters to {out}"⟩
                  { code := 0, stdout := echo s!"Rendered document written to {out}",
                    stderr := log ++ shown verbose [wrote], files := writeFile files out html }

/-- A bind expression as indented JSON. -/
def bindJson : Bind → Value
  | .call path method params =>
    .obj [("kind", .str "cfc"), ("component_path", .str path), ("method_name", .str method),
      ("params", .list (params.map .str))]
  | .url target => .obj [("kind", .str "url"), ("url", .str target)]
  | .generic raw => .obj [("kind", .str "generic"), ("raw", .str raw)]

/-- The figures of a page as table rows. -/
def pageRows (pg : Page) : List (List String) :=
  [["Total rows", toString pg.total], ["Page", toString pg.page],
   ["Page size", toString pg.size], ["Total pages", toString pg.totalPages],
   ["Start row", toString pg.startRow], ["End row", toString pg.endRow]]

/-- Run a command line over the files it can see, the error stream not yet encoded. -/
def outcome (args : List String) (files : Files) : Outcome :=
  match parse args with
  | .render verbose o => render verbose o files
  | .bind verbose expr =>
    let warnings := (Bind.warning? expr).toList.map fun t => (⟨.warning, .binds, t⟩ : LogLine)
    { code := 0, stdout := echo (Json.pretty 0 (bindJson (Bind.parse expr))),
      stderr := shown verbose warnings, files }
  | .paginate _ total page size =>
    match Page.make total page size with
    | .error f => failed files "" s!"Error: {f.message}"
    | .ok pg =>
      let table := Console.render 80 "Pagination"
        [{ header := "Field" }, { header := "Value", right := true }] (pageRows pg)
      { code := 0, stdout := table ++ (if pg.isEmpty then "Page holds no rows.\n" else ""),
        stderr := "", files }
  | .version => { code := 0, stdout := "compat-ui 0.3.0\n", stderr := "", files }
  | .usage reason => { code := 2, stdout := "", stderr := s!"Error: {reason}\n", files }

/-- Run a command line over the files it can see. The error stream writes lone surrogates as
escapes. -/
def run (args : List String) (files : Files) : Outcome :=
  let o := outcome args files
  { o with stderr := Text.escapeLone o.stderr }

end Command
end UiTags
