/-!
# Template failures

A template can fail to be read: its text breaks the grammar, or it names a filter or test that
does not exist. It can also fail while it renders: a name, attribute or item that does not
exist is used, an operation meets values of the wrong kind, a value cannot be converted or
taken apart as asked, a number overflows or is divided by zero, a key, index or attribute is
missing, a template it loads does not exist, a statement is used where it cannot run, or calls
nest deeper than the interpreter goes.

Each failure carries the class of the exception the language raises for it, by which the
command names a failure that stops it. Only a failure of the value class (a value that cannot
be converted or taken apart) is reported as a render error.
-/

namespace UiTags
namespace Template

/-- Why a template could not be read or rendered. -/
inductive Error where
  /-- The template text breaks the grammar. -/
  | malformed (msg : String)
  /-- The template names a filter or test that does not exist. -/
  | unknownName (msg : String)
  /-- A name, attribute or item that does not exist was used. -/
  | undefined (msg : String)
  /-- An operation met a value of the wrong kind. -/
  | mismatch (msg : String)
  /-- A value could not be converted or taken apart as asked. -/
  | badValue (msg : String)
  /-- No template has this name. -/
  | missing (name : String)
  /-- None of these templates exists. -/
  | missingAll (names : List String)
  /-- A statement or a block could not run where it stands. -/
  | runtime (msg : String)
  /-- A filter was given arguments it cannot use. -/
  | filterArgument (msg : String)
  /-- A number is too large for the operation. -/
  | overflow (msg : String)
  /-- A division or remainder by zero. -/
  | zeroDivision (msg : String)
  /-- A dictionary has no such key. -/
  | noKey (msg : String)
  /-- A sequence has no such index. -/
  | noIndex (msg : String)
  /-- A value has no such attribute. -/
  | noAttribute (msg : String)
  /-- Calls, loads or expressions nest deeper than the interpreter goes. -/
  | tooDeep
  /-- The template names a variable of the running code that does not exist. -/
  | unboundName (name : String)
  /-- A failure of another class, named. -/
  | raised (cls msg : String)
  deriving Repr, Inhabited

namespace Error

/-- The text of a failure. -/
def message : Error → String
  | malformed m => m
  | unknownName m => m
  | undefined m => m
  | mismatch m => m
  | badValue m => m
  | missing n => n
  | missingAll ns => ", ".intercalate ns
  | runtime m => m
  | filterArgument m => m
  | overflow m => m
  | zeroDivision m => m
  | noKey m => m
  | noIndex m => m
  | noAttribute m => m
  | tooDeep => "maximum recursion depth exceeded"
  | unboundName n => "name '" ++ n ++ "' is not defined"
  | raised _ m => m

/-- The class of the exception the language raises for a failure. -/
def className : Error → String
  | malformed _ => "TemplateSyntaxError"
  | unknownName _ => "TemplateAssertionError"
  | undefined _ => "UndefinedError"
  | mismatch _ => "TypeError"
  | badValue _ => "ValueError"
  | missing _ => "TemplateNotFound"
  | missingAll _ => "TemplatesNotFound"
  | runtime _ => "TemplateRuntimeError"
  | filterArgument _ => "FilterArgumentError"
  | overflow _ => "OverflowError"
  | zeroDivision _ => "ZeroDivisionError"
  | noKey _ => "KeyError"
  | noIndex _ => "IndexError"
  | noAttribute _ => "AttributeError"
  | tooDeep => "RecursionError"
  | unboundName _ => "NameError"
  | raised c _ => c

/-- Whether the command reports the failure as a render error: a bad value, failures to encode
or decode text among them. -/
def reported : Error → Bool
  | badValue _ => true
  | raised c _ => c == "UnicodeEncodeError" || c == "UnicodeDecodeError"
  | _ => false

end Error
end Template
end UiTags
