import UiTags.Text.Basic
import UiTags.Text.Quoted

/-!
# Import parameters

The parameters of an asset import are written `key=value,key2=value2`. Each comma-separated
entry is cut at its first `=` and both sides are trimmed; an entry without `=` or with a blank
key is dropped, with a warning that quotes the entry.
-/

namespace UiTags
namespace Script

/-- One entry: its trimmed key and value, or `none` when it is malformed. -/
def paramEntry? (entry : List Char) : Option (String × String) :=
  match Text.splitFirst '=' entry with
  | some (key, value) =>
    if (Text.trimBy Text.isBlank key).isEmpty then none
    else some (String.ofList (Text.trimBy Text.isBlank key),
      String.ofList (Text.trimBy Text.isBlank value))
  | none => none

/-- The entries of a parameter text. -/
def paramEntries (raw : String) : List (List Char) :=
  if raw.isEmpty then [] else Text.splitChars ',' raw.toList

/-- The parameters of a parameter text, in order. -/
def parseParams (raw : String) : List (String × String) :=
  (paramEntries raw).filterMap paramEntry?

/-- The warnings for the dropped entries, in order. -/
def paramWarnings (raw : String) : List String :=
  (paramEntries raw).filterMap fun e =>
    match paramEntry? e with
    | some _ => none
    | none => some s!"Ignoring malformed ajaximport param: {Text.quote (String.ofList e)}"

end Script
end UiTags
