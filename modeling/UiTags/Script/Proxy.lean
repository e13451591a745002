import UiTags.Script.Wrapper

/-!
# Proxy script

A proxy for a remote component defines a class, named by the component's last name or the
given class name, whose `callMethod` posts a method call to the remote endpoint, and an instance
of it on the window. A proxy with a bind expression runs the expression's request once the
document is ready and hands the result to the success callback, or the error to the error
callback (to the console when there is none). Without a bind expression nothing waits for the
document.
-/

namespace UiTags
namespace Script

/-- The script of a proxy for component `cfc` with class name `className`, and an optional bind
expression written `raw`. -/
def proxyScript (cfc className : Value) (bind : Option Bind) (raw endpoint onSuccess onError : Value) :
    String :=
  let classPart :=
    if cfc.truthy then
      "    class " ++ className.text ++ " \x7b\n" ++
      lines ["        constructor() \x7b"] ++
      "            this.cfcPath = " ++ quoted cfc ++ ";\n" ++
      "            this.endpoint = " ++ quoted endpoint ++ ";\n" ++
      lines ["        \x7d",
        "",
        "        async callMethod(methodName, args = \x7b\x7d) \x7b",
        "            const url = this.endpoint;",
        "            const formData = new FormData();",
        "            formData.append('method', methodName);",
        "            formData.append('cfc', this.cfcPath);",
        "            Object.keys(args).forEach(function(key) \x7b",
        "                const value = args[key];",
        "                formData.append(key, value !== null && typeof value === 'object' ? JSON.stringify(value) : value);",
        "            \x7d);",
        "",
        "            const response = await fetch(url, \x7b",
        "                method: 'POST',",
        "                headers: \x7b 'X-Requested-With': 'XMLHttpRequest' \x7d,",
        "                body: formData",
        "            \x7d);",
        "            if (!response.ok) \x7b",
        "                throw new Error('HTTP ' + response.status + ': ' + response.statusText);",
        "            \x7d",
        "            const contentType = response.headers.get('content-type') || '';",
        "            return contentType.indexOf('application/json') !== -1 ? response.json() : response.text();",
        "        \x7d",
        "    \x7d",
        ""] ++
      "    window." ++ className.text ++ " = new " ++ className.text ++ "();\n"
    else ""
  match bind with
  | some b =>
    block (classPart ++
      responseHelpers ++ "\n" ++
      bindRequest b raw endpoint ++ "\n" ++
      lines ["    function init() \x7b",
        "        request(\x7b\x7d).then(function(result) \x7b"] ++
      "            " ++ invoke onSuccess "result" ++ "\n" ++
      lines ["        \x7d).catch(function(error) \x7b"] ++
      (if onError.truthy then "            " ++ invoke onError "error.message, error" ++ "\n"
       else lines ["            console.error('Bind request failed: ' + error.message);"]) ++
      lines ["        \x7d);",
        "    \x7d"])
  | none => block classPart ""

end Script
end UiTags
