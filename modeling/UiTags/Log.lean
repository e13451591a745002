/-!
# Log lines

What rendering reports as it goes: element ids drawn, frames opened, closed and registered,
scripts emitted, bind expressions that could not be read, dropped import parameters, the size of
the finished document. Each line has a level and the part of the library that reports it.
-/

namespace UiTags

/-- How much a log line matters. -/
inductive LogLevel where
  | debug
  | info
  | warning
  deriving DecidableEq, Repr, Inhabited

/-- The name of a level as printed. -/
def LogLevel.name : LogLevel → String
  | .debug => "DEBUG"
  | .info => "INFO"
  | .warning => "WARNING"

/-- Whether a level is shown when only warnings are. -/
def LogLevel.isWarning : LogLevel → Bool
  | .warning => true
  | _ => false

/-- The parts of the library that report. -/
inductive LogSource where
  | frames
  | binds
  | scripts
  | tags
  | markup
  | commandLine
  deriving DecidableEq, Repr, Inhabited

/-- The name a part reports under. -/
def LogSource.name : LogSource → String
  | .frames => "compat_ui.core.context"
  | .binds => "compat_ui.core.bind"
  | .scripts => "compat_ui.runtime.scripts"
  | .tags => "compat_ui.runtime.tags"
  | .markup => "compat_ui.runtime.markup"
  | .commandLine => "compat_ui.cli"

/-- One log line. -/
structure LogLine where
  level : LogLevel
  source : LogSource
  text : String
  deriving Inhabited

/-- A log line as printed: level, source and text. -/
def LogLine.render (l : LogLine) : String :=
  s!"{l.level.name} {l.source.name}: {l.text}"

end UiTags
