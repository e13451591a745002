import UiTags.Script.Wrapper

/-!
# Pod and div scripts

A pod with a source fetches its content into its body; a div with a bind expression runs the
expression's request and puts the answer into itself, at once on page load when so configured.
Both report failures through an event and the configured callback.
-/

namespace UiTags
namespace Script

/-- The script of a pod with element id `podId` that loads from its source. -/
def podScript (podId onBindError : Value) : String :=
  block (
    responseHelpers ++ "\n" ++
    lines ["    function init() \x7b"] ++
    "        const podElement = document.getElementById(" ++ quoted podId ++ ");\n" ++
    lines ["        if (!podElement || podElement.dataset.bxInitialized === 'true') \x7b",
     "            return;",
     "        \x7d",
     "        podElement.dataset.bxInitialized = 'true';",
     "",
     "        const sourceUrl = podElement.dataset.source;",
     "        const podBody = podElement.querySelector('.bx-pod-body');",
     "",
     "        function handleError(error) \x7b",
     "            const message = document.createElement('div');",
     "            message.className = 'bx-source-error';",
     "            message.textContent = 'Error loading content: ' + error.message;",
     "            podBody.replaceChildren(message);",
     "            podElement.dispatchEvent(new CustomEvent('podLoadError', \x7b",
     "                detail: \x7b source: sourceUrl, error: error.message \x7d,",
     "                bubbles: true",
     "            \x7d));"] ++
    "            " ++ invoke onBindError "error.message, error" ++ "\n" ++
    lines ["        \x7d",
     "",
     "        function loadSource() \x7b",
     "            return fetch(sourceUrl, \x7b",
     "                headers: \x7b 'X-Requested-With': 'XMLHttpRequest' \x7d",
     "            \x7d)",
     "                .then(handleResponse)",
     "                .then(function(content) \x7b",
     "                    podBody.innerHTML = typeof content === 'string' ? content : JSON.stringify(content);",
     "                    podElement.dispatchEvent(new CustomEvent('podLoaded', \x7b",
     "                        detail: \x7b source: sourceUrl \x7d,",
     "                        bubbles: true",
     "                    \x7d));",
     "                \x7d)",
     "                .catch(handleError);",
     "        \x7d",
     "",
     "        podElement.refresh = loadSource;",
     "        loadSource();",
     "    \x7d"])

/-- The script of a div with element id `divId` bound to `bind` (written `raw`). -/
def divScript (divId : Value) (bind : Bind) (raw bindOnLoad endpoint onBindError : Value) :
    String :=
  block (
    responseHelpers ++ "\n" ++
    bindRequest bind raw endpoint ++ "\n" ++
    lines ["    function init() \x7b"] ++
    "        const divElement = document.getElementById(" ++ quoted divId ++ ");\n" ++
    lines ["        if (!divElement || divElement.dataset.bxInitialized === 'true') \x7b",
     "            return;",
     "        \x7d",
     "        divElement.dataset.bxInitialized = 'true';",
     "",
     "        function executeBind(args) \x7b",
     "            divElement.classList.add('bx-bind-active');",
     "            return request(args || \x7b\x7d)",
     "                .then(function(content) \x7b",
     "                    if (content !== null) \x7b",
     "                        divElement.innerHTML = typeof content === 'string' ? content : JSON.stringify(content);",
     "                    \x7d",
     "                    divElement.dispatchEvent(new CustomEvent('bindSuccess', \x7b",
     "                        detail: \x7b content: content \x7d,",
     "                        bubbles: true",
     "                    \x7d));",
     "                    return content;",
     "                \x7d)",
     "                .catch(function(error) \x7b",
     "                    const message = document.createElement('div');",
     "                    message.className = 'bx-bind-error';",
     "                    message.textContent = 'Error loading content: ' + error.message;",
     "                    divElement.replaceChildren(message);",
     "                    divElement.dispatchEvent(new CustomEvent('bindError', \x7b",
     "                        detail: \x7b error: error.message \x7d,",
     "                        bubbles: true",
     "                    \x7d));"] ++
    "                    " ++ invoke onBindError "error.message, error" ++ "\n" ++
    lines ["                \x7d)",
     "                .finally(function() \x7b",
     "                    divElement.classList.remove('bx-bind-active');",
     "                \x7d);",
     "        \x7d",
     "",
     "        divElement.executeBind = executeBind;"] ++
    (if bindOnLoad.truthy then lines ["        executeBind();"] else "") ++
    lines ["    \x7d"])

end Script
end UiTags
