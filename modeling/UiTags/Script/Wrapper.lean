import UiTags.Script.Literal
import UiTags.Bind

/-!
# Script blocks

Every script is one block: a `<script>` element holding a strict-mode function expression that is
called at once. Inside, the block's own code defines an `init` function, and a closing part
calls `init` once the document is ready (at once when it already is). Shared pieces: a callback
call guarded by a type test, the response helpers, and the request function of a bind
expression.
-/

namespace UiTags
namespace Script

/-- Lines of code, each followed by a line feed. -/
def lines (xs : List String) : String :=
  String.join (xs.map (· ++ "\n"))

/-- The part that calls `init` once the document is ready. -/
def whenReady : String :=
  lines ["    if (document.readyState === 'loading') \x7b",
   "        document.addEventListener('DOMContentLoaded', init);",
   "    \x7d else \x7b",
   "        init();",
   "    \x7d"]

/-- A script block around the given code and closing part. -/
def block (body : String) (ready : String := whenReady) : String :=
  lines ["<script type=\"text/javascript\">",
   "(function() \x7b",
   "    'use strict';",
   ""] ++ body ++ ready ++
  lines ["\x7d)();",
   "</script>"]

/-- A call of the callback named by a value, guarded by a test that it is a function; nothing
when the value is not truthy. The name is written as it stands. -/
def invoke (name : Value) (args : String) : String :=
  if name.truthy then
    "if (typeof " ++ name.text ++ " === 'function') \x7b " ++ name.text ++ "(" ++ args ++ "); \x7d"
  else ""

/-- The helpers that check a response and read it as JSON or text. -/
def responseHelpers : String :=
  lines ["    function parseResponse(response) \x7b",
   "        const contentType = response.headers.get('content-type') || '';",
   "        if (contentType.indexOf('application/json') !== -1) \x7b",
   "            return response.json();",
   "        \x7d",
   "        return response.text();",
   "    \x7d",
   "",
   "    function handleResponse(response) \x7b",
   "        if (!response.ok) \x7b",
   "            throw new Error('HTTP ' + response.status + ': ' + response.statusText);",
   "        \x7d",
   "        return parseResponse(response);",
   "    \x7d"]

/-- The request function of a bind expression; `raw` is the expression as written and
`endpoint` the remote call endpoint. -/
def bindRequest (bind : Bind) (raw : Value) (endpoint : Value) : String :=
  lines ["    function resolveParam(name, args) \x7b",
   "        if (args && Object.prototype.hasOwnProperty.call(args, name)) \x7b",
   "            return args[name];",
   "        \x7d",
   "        const field = document.getElementById(name) || document.querySelector('[name=\"' + name + '\"]');",
   "        if (field && 'value' in field) \x7b",
   "            return field.value;",
   "        \x7d",
   "        return name;",
   "    \x7d",
   "",
   "    function request(args) \x7b"] ++
  (match bind with
   | .call path method params =>
     "        // Execute bind expression: " ++ comment raw ++ "\n" ++
     lines ["        const formData = new FormData();"] ++
     "        formData.append('method', " ++ quotedText method ++ ");\n" ++
     "        formData.append('cfc', " ++ quotedText path ++ ");\n" ++
     String.join (params.map fun p =>
       "        formData.append(" ++ quotedText p ++ ", resolveParam(" ++ quotedText p ++
         ", args));\n") ++
     "        return fetch(" ++ quoted endpoint ++ ", \x7b\n" ++
     lines ["            method: 'POST',",
      "            headers: \x7b 'X-Requested-With': 'XMLHttpRequest' \x7d,",
      "            body: formData",
      "        \x7d).then(handleResponse);"]
   | .url target =>
     "        // Fetch bind URL: " ++ comment raw ++ "\n" ++
     "        const url = new URL(" ++ quotedText target ++ ", window.location.href);\n" ++
     lines ["        Object.keys(args || \x7b\x7d).forEach(function(key) \x7b",
      "            url.searchParams.set(key, args[key]);",
      "        \x7d);",
      "        return fetch(url.toString(), \x7b",
      "            method: 'GET',",
      "            headers: \x7b 'X-Requested-With': 'XMLHttpRequest' \x7d",
      "        \x7d).then(handleResponse);"]
   | .generic _ =>
     "        // Generic bind handler for: " ++ comment raw ++ "\n" ++
     "        console.warn(" ++ quotedText ("Bind expression not fully supported: " ++ raw.text) ++
       ");\n" ++
     lines ["        return Promise.resolve(null);"]) ++
  lines ["    \x7d"]

end Script
end UiTags
