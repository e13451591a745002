import UiTags.Script.Wrapper

/-!
# Import script

Sets up the page-wide object that the other scripts use: its version and asset locations,
the parameters of the import, a content fetcher, a loader into a container, and the link
handler that finds the container a link sits in.
-/

namespace UiTags
namespace Script

/-- The script of an asset import. -/
def importScript (version cssSrc scriptSrc endpoint : Value) (params : List (String × String)) :
    String :=
  block (
    lines ["    window.BoxLangAjax = window.BoxLangAjax || \x7b"] ++
    "        version: " ++ quoted version ++ ",\n" ++
    lines ["        config: \x7b"] ++
    "            cssSrc: " ++ quoted cssSrc ++ ",\n" ++
    "            scriptSrc: " ++ quoted scriptSrc ++ ",\n" ++
    "            remoteEndpoint: " ++ quoted endpoint ++ "\n" ++
    lines ["        \x7d,",
     "        components: \x7b\x7d,",
     "        utils: \x7b\x7d",
     "    \x7d;",
     "",
     "    const BoxLangAjax = window.BoxLangAjax;",
     "    BoxLangAjax.config.params = \x7b\x7d;"] ++
    String.join (params.map fun p =>
      "    BoxLangAjax.config.params[" ++ quotedText p.1 ++ "] = " ++ quotedText p.2 ++ ";\n") ++
    lines ["",
     "    BoxLangAjax.utils.fetchContent = async function(url, options) \x7b",
     "        const fetchOptions = Object.assign(\x7b method: 'GET' \x7d, options || \x7b\x7d);",
     "        fetchOptions.headers = Object.assign(\x7b 'X-Requested-With': 'XMLHttpRequest' \x7d, fetchOptions.headers || \x7b\x7d);",
     "        const response = await fetch(url, fetchOptions);",
     "        if (!response.ok) \x7b",
     "            throw new Error('HTTP ' + response.status + ': ' + response.statusText);",
     "        \x7d",
     "        const contentType = response.headers.get('content-type') || '';",
     "        return contentType.indexOf('application/json') !== -1 ? response.json() : response.text();",
     "    \x7d;",
     "",
     "    BoxLangAjax.utils.loadIntoContainer = function(url, containerId, options) \x7b",
     "        const container = document.getElementById(containerId);",
     "        if (!container) \x7b",
     "            return Promise.reject(new Error('Container not found: ' + containerId));",
     "        \x7d",
     "        container.innerHTML = '<div class=\"bx-loading\">Loading...</div>';",
     "        return BoxLangAjax.utils.fetchContent(url, options)",
     "            .then(function(content) \x7b",
     "                if (typeof content !== 'string') \x7b",
     "                    content = JSON.stringify(content);",
     "                \x7d",
     "                container.innerHTML = content;",
     "                container.dispatchEvent(new CustomEvent('boxlang-content-loaded', \x7b",
     "                    detail: \x7b url: url \x7d,",
     "                    bubbles: true",
     "                \x7d));",
     "                return content;",
     "            \x7d)",
     "            .catch(function(error) \x7b",
     "                const message = document.createElement('div');",
     "                message.className = 'bx-error';",
     "                message.textContent = 'Error loading content: ' + error.message;",
     "                container.replaceChildren(message);",
     "                throw error;",
     "            \x7d);",
     "    \x7d;",
     "",
     "    BoxLangAjax.utils.handleAjaxLink = function(url, event) \x7b",
     "        if (event) \x7b",
     "            event.preventDefault();",
     "        \x7d",
     "        let container = null;",
     "        let currentElement = event && event.target ? event.target : null;",
     "        while (currentElement && currentElement !== document.body) \x7b",
     "            if (currentElement.classList && (",
     "                currentElement.classList.contains('bx-layout') ||",
     "                currentElement.classList.contains('bx-div') ||",
     "                currentElement.classList.contains('bx-pod')",
     "            )) \x7b",
     "                container = currentElement;",
     "                break;",
     "            \x7d",
     "            currentElement = currentElement.parentElement;",
     "        \x7d",
     "        if (!container) \x7b",
     "            container = document.querySelector('.bx-layout, .bx-div, .bx-pod, [id]');",
     "        \x7d",
     "        if (!container) \x7b",
     "            window.location.href = url;",
     "            return Promise.resolve(null);",
     "        \x7d",
     "        if (container.classList.contains('bx-pod')) \x7b",
     "            container = container.querySelector('.bx-pod-body') || container;",
     "        \x7d",
     "        if (!container.id) \x7b",
     "            container.id = 'bx-ajax-' + Date.now();",
     "        \x7d",
     "        return BoxLangAjax.utils.loadIntoContainer(url, container.id);",
     "    \x7d;",
     "",
     "    function init() \x7b",
     "        console.log('BoxLang AJAX initialized');",
     "        document.dispatchEvent(new CustomEvent('boxlang-ajax-ready', \x7b",
     "            detail: \x7b version: BoxLangAjax.version \x7d",
     "        \x7d));",
     "    \x7d"])

/-- The script that calls a function once the document is ready, or reports that it is
missing. -/
def onLoadScript (name : String) : String :=
  block (
    lines ["    function init() \x7b"] ++
    "        if (typeof " ++ name ++ " === 'function') \x7b\n" ++
    "            " ++ name ++ "();\n" ++
    lines ["        \x7d else \x7b"] ++
    "            console.error(" ++ quotedText ("Function " ++ name ++ " is not defined") ++ ");\n" ++
    lines ["        \x7d",
     "    \x7d"])

end Script
end UiTags
