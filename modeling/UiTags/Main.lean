import UiTags.Command

/-!
# The command-line program

Reads the files a command line may use (the source, the settings file and the templates a
template directory may replace), runs the command over them, prints both streams, writes the
files the run changed, and exits with the run's code.
-/

open UiTags

/-- The text of a file, if it can be read. -/
def readIfThere (path : String) : IO Command.Files := do
  try
    return [(path, ← IO.FS.readFile path)]
  catch _ =>
    return []

/-- The files a command line may read. -/
def inputs (args : List String) : IO Command.Files := do
  match Command.parse args with
  | .render _ o =>
    let mut files := (← readIfThere o.source) ++
      (← readIfThere ((o.config).getD "compat-ui.toml"))
    if let some dir := o.templates then
      for name in Command.templateNames do
        files := files ++ (← readIfThere (dir ++ "/" ++ name))
    return files
  | _ => return []

def main (args : List String) : IO UInt32 := do
  let before ← inputs args
  let outcome := Command.run args before
  IO.print outcome.stdout
  IO.eprint outcome.stderr
  for (path, text) in outcome.files do
    if before.lookup path != some text then
      IO.FS.writeFile path text
  return outcome.code.toUInt32
