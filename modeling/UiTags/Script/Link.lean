import UiTags.Script.Literal
import UiTags.Script.Identifier
import UiTags.Script.Import
import UiTags.Failure

/-!
# Container links

A link that loads a URL into the nearest container: a `javascript:` URL whose one expression
calls the page's loader with the trimmed URL as a single-quoted string, or reports that the
loader is missing. A missing or blank URL is refused.

A call on load runs a named function once the document is ready. A missing or blank name is
refused, and so is a trimmed name that is no script name.
-/

namespace UiTags
namespace Script

/-- The link for a URL value. -/
def containerLink (url : Value) : Except Failure String :=
  match url with
  | .null => .error .missingUrl
  | v =>
    let text := Text.strip v.text
    if text.isEmpty then .error .missingUrl
    else .ok ("javascript:void(window.BoxLangAjax && BoxLangAjax.utils ? " ++
      "BoxLangAjax.utils.handleAjaxLink('" ++ escape text ++
      "', event) : console.error('BoxLang AJAX not initialized'))")

/-- The script calling the function named by a value once the document is ready. -/
def onLoad (name : Value) : Except Failure String :=
  match name with
  | .null => .error .missingFunctionName
  | v =>
    let text := Text.strip v.text
    if text.isEmpty then .error .missingFunctionName
    else if !isIdentifier text then .error (.badFunctionName text)
    else .ok (onLoadScript text)

end Script
end UiTags
