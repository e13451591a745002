/-!
# Packaged templates

The templates that lay out every tag's markup and script, by name, as the library ships them.
A template directory given to the command line may replace any of them, or add templates they
do not have; where none is replaced, fragments are rendered directly by the markup and script
modules, which give the same text.

`packagedUses` lists, for each packaged template, the templates it loads: a fragment is
rendered from templates when its own template or one of these is replaced.
-/

namespace UiTags
namespace Template

/-- Lines joined with line breaks between them. -/
def joinLines (lines : List String) : String := String.intercalate "\n" lines

/-- The packaged templates, by name. -/
def packaged : List (String × String) := [
  ("_macros.html",
    joinLines [
      "\x7b#- Shared markup fragments. -#\x7d",
      "",
      "\x7b% macro attrs(pairs) -%\x7d",
      "\x7b% for name, value in pairs %\x7d \x7b\x7b name \x7d\x7d=\"\x7b\x7b value \x7d\x7d\"\x7b% endfor %\x7d",
      "\x7b%- endmacro %\x7d",
      "",
      "\x7b% macro source_body(source, content) %\x7d",
      "\x7b% if source %\x7d",
      "<!-- Content loaded from: \x7b\x7b source \x7d\x7d -->",
      "\x7b% if content %\x7d",
      "\x7b\x7b content \x7d\x7d",
      "\x7b% else %\x7d",
      "<div class=\"bx-source-loading\">Loading content...</div>",
      "\x7b% endif %\x7d",
      "\x7b% else %\x7d",
      "\x7b\x7b content \x7d\x7d",
      "\x7b% endif %\x7d",
      "\x7b% endmacro %\x7d",
      ""]),
  ("ajax_import.html",
    joinLines [
      "\x7b% for href in stylesheets %\x7d",
      "<link rel=\"stylesheet\" type=\"text/css\" href=\"\x7b\x7b href \x7d\x7d\">",
      "\x7b% endfor %\x7d",
      "\x7b% for src in scripts %\x7d",
      "<script type=\"text/javascript\" src=\"\x7b\x7b src \x7d\x7d\"></script>",
      "\x7b% endfor %\x7d",
      ""]),
  ("div.html",
    joinLines [
      "\x7b% from \"_macros.html\" import attrs %\x7d",
      "<\x7b\x7b div.tag_name \x7d\x7d id=\"\x7b\x7b div.id \x7d\x7d\" class=\"\x7b\x7b div.classes \x7d\x7d\"\x7b% if div.style %\x7d style=\"\x7b\x7b div.style \x7d\x7d\"\x7b% endif %\x7d\x7b\x7b attrs(div.data) \x7d\x7d>",
      "\x7b% if div.loading %\x7d",
      "    <div class=\"bx-bind-loading\">Loading...</div>",
      "\x7b% else %\x7d",
      "\x7b\x7b div.content \x7d\x7d",
      "\x7b% endif %\x7d",
      "</\x7b\x7b div.tag_name \x7d\x7d>",
      ""]),
  ("grid.html",
    joinLines [
      "\x7b% from \"_macros.html\" import attrs %\x7d",
      "<div id=\"\x7b\x7b grid.id \x7d\x7d\" class=\"\x7b\x7b grid.classes \x7d\x7d\"\x7b% if grid.style %\x7d style=\"\x7b\x7b grid.style \x7d\x7d\"\x7b% endif %\x7d\x7b\x7b attrs(grid.data) \x7d\x7d>",
      "    <table class=\"bx-grid-table\">",
      "\x7b% if grid.show_headers %\x7d",
      "        <thead class=\"bx-grid-header\">",
      "            <tr>",
      "\x7b% if grid.select_mode != \"none\" %\x7d",
      "                <th class=\"bx-grid-select-header\">\x7b% if grid.select_mode == \"multi\" %\x7d<input type=\"checkbox\" class=\"bx-grid-select-all\" aria-label=\"Select all rows\">\x7b% endif %\x7d</th>",
      "\x7b% endif %\x7d",
      "\x7b% for column in columns %\x7d",
      "                <th class=\"\x7b\x7b column.header_classes \x7d\x7d\" data-column=\"\x7b\x7b column.name \x7d\x7d\"\x7b\x7b attrs(column.header_data) \x7d\x7d\x7b% if column.header_style %\x7d style=\"\x7b\x7b column.header_style \x7d\x7d\"\x7b% endif %\x7d>\x7b\x7b column.header \x7d\x7d\x7b% if column.sortable %\x7d<span class=\"bx-grid-sort-indicator\"></span>\x7b% endif %\x7d</th>",
      "\x7b% endfor %\x7d",
      "            </tr>",
      "        </thead>",
      "\x7b% endif %\x7d",
      "        <tbody class=\"bx-grid-body\">",
      "\x7b% for row in rows %\x7d",
      "            <tr class=\"bx-grid-row\" data-row-index=\"\x7b\x7b row.index \x7d\x7d\">",
      "\x7b% if grid.select_mode == \"multi\" %\x7d",
      "                <td class=\"bx-grid-select-cell\"><input type=\"checkbox\" class=\"bx-grid-select\" value=\"\x7b\x7b row.index \x7d\x7d\" aria-label=\"Select row\"></td>",
      "\x7b% elif grid.select_mode == \"single\" %\x7d",
      "                <td class=\"bx-grid-select-cell\"><input type=\"radio\" class=\"bx-grid-select\" name=\"\x7b\x7b grid.name \x7d\x7d_select\" value=\"\x7b\x7b row.index \x7d\x7d\" aria-label=\"Select row\"></td>",
      "\x7b% endif %\x7d",
      "\x7b% for cell in row.cells %\x7d",
      "                <td class=\"bx-grid-cell\" data-column=\"\x7b\x7b cell.column \x7d\x7d\"\x7b% if cell.readonly %\x7d data-editable=\"false\"\x7b% endif %\x7d\x7b% if cell.style %\x7d style=\"\x7b\x7b cell.style \x7d\x7d\"\x7b% endif %\x7d>",
      "                    \x7b%- if cell.type == \"image\" and cell.text -%\x7d",
      "                    <img src=\"\x7b\x7b cell.text \x7d\x7d\" alt=\"\">",
      "                    \x7b%- elif cell.href -%\x7d",
      "                    <a href=\"\x7b\x7b cell.href \x7d\x7d\"\x7b% if cell.target %\x7d target=\"\x7b\x7b cell.target \x7d\x7d\"\x7b% endif %\x7d>\x7b\x7b cell.text \x7d\x7d</a>",
      "                    \x7b%- else -%\x7d",
      "                    \x7b\x7b cell.text \x7d\x7d",
      "                    \x7b%- endif -%\x7d",
      "                </td>",
      "\x7b% endfor %\x7d",
      "            </tr>",
      "\x7b% else %\x7d",
      "\x7b% if grid.has_query %\x7d",
      "            <tr class=\"bx-grid-empty-row\"><td class=\"bx-grid-empty\" colspan=\"\x7b\x7b grid.colspan \x7d\x7d\">No data available</td></tr>",
      "\x7b% endif %\x7d",
      "\x7b% endfor %\x7d",
      "        </tbody>",
      "    </table>",
      "\x7b% if pagination %\x7d",
      "    <div class=\"bx-grid-pagination\" data-page=\"\x7b\x7b pagination.page \x7d\x7d\" data-total-pages=\"\x7b\x7b pagination.total_pages \x7d\x7d\">",
      "        <span class=\"bx-grid-page-info\">\x7b\x7b page_info \x7d\x7d</span>",
      "        <button type=\"button\" class=\"bx-grid-page-btn bx-grid-page-prev\" data-page=\"\x7b\x7b pagination.page - 1 \x7d\x7d\"\x7b% if not pagination.has_previous %\x7d disabled\x7b% endif %\x7d>Previous</button>",
      "\x7b% for number in page_numbers %\x7d",
      "        <button type=\"button\" class=\"bx-grid-page-btn\x7b% if number == pagination.page %\x7d bx-grid-page-current\x7b% endif %\x7d\" data-page=\"\x7b\x7b number \x7d\x7d\">\x7b\x7b number \x7d\x7d</button>",
      "\x7b% endfor %\x7d",
      "        <button type=\"button\" class=\"bx-grid-page-btn bx-grid-page-next\" data-page=\"\x7b\x7b pagination.page + 1 \x7d\x7d\"\x7b% if not pagination.has_next %\x7d disabled\x7b% endif %\x7d>Next</button>",
      "    </div>",
      "\x7b% endif %\x7d",
      "</div>",
      ""]),
  ("grid_update.html",
    joinLines [
      "<form id=\"\x7b\x7b form.id \x7d\x7d\" class=\"bx-grid-update\" method=\"\x7b\x7b form.method \x7d\x7d\" action=\"\x7b\x7b form.action \x7d\x7d\" data-grid=\"\x7b\x7b form.grid_name \x7d\x7d\" style=\"display: none\">",
      "    <input type=\"hidden\" name=\"gridName\" value=\"\x7b\x7b form.grid_name \x7d\x7d\">",
      "    <input type=\"hidden\" name=\"gridData\" value=\"\">",
      "</form>",
      ""]),
  ("layout.html",
    joinLines [
      "\x7b% from \"_macros.html\" import attrs, source_body %\x7d",
      "\x7b% macro area_open(area, classes) -%\x7d",
      "<div id=\"\x7b\x7b area.id \x7d\x7d\" class=\"\x7b\x7b classes \x7d\x7d\"\x7b% if area.style %\x7d style=\"\x7b\x7b area.style \x7d\x7d\"\x7b% endif %\x7d\x7b\x7b attrs(area.data) \x7d\x7d",
      "\x7b%- endmacro %\x7d",
      "\x7b% macro border_region(area) %\x7d",
      "        \x7b\x7b area_open(area, \"bx-border-region bx-border-\" ~ area.position) \x7d\x7d>",
      "\x7b% if area.title %\x7d",
      "            <div class=\"bx-layout-area-title\">\x7b\x7b area.title \x7d\x7d</div>",
      "\x7b% endif %\x7d",
      "\x7b\x7b source_body(area.source, area.content) \x7d\x7d",
      "        </div>",
      "\x7b% endmacro %\x7d",
      "<div id=\"\x7b\x7b layout.id \x7d\x7d\" class=\"\x7b\x7b layout.classes \x7d\x7d\"\x7b% if layout.style %\x7d style=\"\x7b\x7b layout.style \x7d\x7d\"\x7b% endif %\x7d\x7b\x7b attrs(layout.data) \x7d\x7d>",
      "\x7b% if layout.type == \"tab\" %\x7d",
      "    <div class=\"bx-tab-headers\" role=\"tablist\">",
      "\x7b% for area in areas %\x7d",
      "        <button type=\"button\" class=\"bx-tab-header\x7b% if loop.first %\x7d active\x7b% endif %\x7d\" data-tab-index=\"\x7b\x7b loop.index0 \x7d\x7d\" role=\"tab\" aria-controls=\"\x7b\x7b area.id \x7d\x7d\" aria-selected=\"\x7b\x7b 'true' if loop.first else 'false' \x7d\x7d\">\x7b\x7b area.title \x7d\x7d</button>",
      "\x7b% endfor %\x7d",
      "    </div>",
      "    <div class=\"bx-tab-panels\">",
      "\x7b% for area in areas %\x7d",
      "        \x7b\x7b area_open(area, \"bx-tab-panel active\" if loop.first else \"bx-tab-panel\") \x7d\x7d role=\"tabpanel\">",
      "\x7b\x7b source_body(area.source, area.content) \x7d\x7d",
      "        </div>",
      "\x7b% endfor %\x7d",
      "    </div>",
      "\x7b% elif layout.type == \"accordion\" %\x7d",
      "\x7b% for area in areas %\x7d",
      "    \x7b\x7b area_open(area, \"bx-accordion-panel collapsed\" if area.collapsed else \"bx-accordion-panel\") \x7d\x7d>",
      "        <div class=\"bx-accordion-header\" role=\"button\" aria-expanded=\"\x7b\x7b 'false' if area.collapsed else 'true' \x7d\x7d\">\x7b\x7b area.title \x7d\x7d</div>",
      "        <div class=\"bx-accordion-content\">",
      "\x7b\x7b source_body(area.source, area.content) \x7d\x7d",
      "        </div>",
      "    </div>",
      "\x7b% endfor %\x7d",
      "\x7b% elif layout.type == \"border\" %\x7d",
      "\x7b% if regions.top %\x7d",
      "\x7b\x7b border_region(regions.top) \x7d\x7d",
      "\x7b% endif %\x7d",
      "    <div class=\"bx-border-middle\">",
      "\x7b% for position in (\"left\", \"center\", \"right\") %\x7d",
      "\x7b% if regions[position] %\x7d",
      "\x7b\x7b border_region(regions[position]) \x7d\x7d",
      "\x7b% endif %\x7d",
      "\x7b% endfor %\x7d",
      "    </div>",
      "\x7b% if regions.bottom %\x7d",
      "\x7b\x7b border_region(regions.bottom) \x7d\x7d",
      "\x7b% endif %\x7d",
      "\x7b% else %\x7d",
      "\x7b% for area in areas %\x7d",
      "    \x7b\x7b area_open(area, \"bx-box-item\") \x7d\x7d>",
      "\x7b% if area.title %\x7d",
      "        <div class=\"bx-layout-area-title\">\x7b\x7b area.title \x7d\x7d</div>",
      "\x7b% endif %\x7d",
      "\x7b\x7b source_body(area.source, area.content) \x7d\x7d",
      "    </div>",
      "\x7b% endfor %\x7d",
      "\x7b% endif %\x7d",
      "</div>",
      ""]),
  ("pod.html",
    joinLines [
      "\x7b% from \"_macros.html\" import attrs, source_body %\x7d",
      "<div id=\"\x7b\x7b pod.id \x7d\x7d\" class=\"\x7b\x7b pod.classes \x7d\x7d\"\x7b% if pod.style %\x7d style=\"\x7b\x7b pod.style \x7d\x7d\"\x7b% endif %\x7d\x7b\x7b attrs(pod.data) \x7d\x7d>",
      "\x7b% if pod.title %\x7d",
      "    <div class=\"bx-pod-header\"\x7b% if pod.header_style %\x7d style=\"\x7b\x7b pod.header_style \x7d\x7d\"\x7b% endif %\x7d>",
      "        <span class=\"bx-pod-title\">\x7b\x7b pod.title \x7d\x7d</span>",
      "    </div>",
      "\x7b% endif %\x7d",
      "    <div class=\"bx-pod-body\"\x7b% if pod.body_style %\x7d style=\"\x7b\x7b pod.body_style \x7d\x7d\"\x7b% endif %\x7d>",
      "\x7b\x7b source_body(pod.source, pod.content) \x7d\x7d",
      "    </div>",
      "</div>",
      ""]),
  ("scripts/_base.js",
    joinLines [
      "\x7b#- Wrapper for every emitted script: one IIFE, initialised once the DOM is ready. -#\x7d",
      "<script type=\"text/javascript\">",
      "(function() \x7b",
      "    'use strict';",
      "",
      "\x7b% block body %\x7d\x7b% endblock %\x7d",
      "\x7b% block ready %\x7d",
      "    if (document.readyState === 'loading') \x7b",
      "        document.addEventListener('DOMContentLoaded', init);",
      "    \x7d else \x7b",
      "        init();",
      "    \x7d",
      "\x7b% endblock %\x7d",
      "\x7d)();",
      "</script>",
      ""]),
  ("scripts/_macros.js",
    joinLines [
      "\x7b#- Shared script fragments. Callback names are validated identifiers. -#\x7d",
      "",
      "\x7b% macro invoke(name, args=\"\") -%\x7d",
      "\x7b% if name %\x7dif (typeof \x7b\x7b name \x7d\x7d === 'function') \x7b \x7b\x7b name \x7d\x7d(\x7b\x7b args \x7d\x7d); \x7d\x7b% endif %\x7d",
      "\x7b%- endmacro %\x7d",
      "",
      "\x7b% macro response_helpers() %\x7d",
      "    function parseResponse(response) \x7b",
      "        const contentType = response.headers.get('content-type') || '';",
      "        if (contentType.indexOf('application/json') !== -1) \x7b",
      "            return response.json();",
      "        \x7d",
      "        return response.text();",
      "    \x7d",
      "",
      "    function handleResponse(response) \x7b",
      "        if (!response.ok) \x7b",
      "            throw new Error('HTTP ' + response.status + ': ' + response.statusText);",
      "        \x7d",
      "        return parseResponse(response);",
      "    \x7d",
      "\x7b% endmacro %\x7d",
      "",
      "\x7b% macro bind_request(bind, raw, remote_endpoint) %\x7d",
      "    function resolveParam(name, args) \x7b",
      "        if (args && Object.prototype.hasOwnProperty.call(args, name)) \x7b",
      "            return args[name];",
      "        \x7d",
      "        const field = document.getElementById(name) || document.querySelector('[name=\"' + name + '\"]');",
      "        if (field && 'value' in field) \x7b",
      "            return field.value;",
      "        \x7d",
      "        return name;",
      "    \x7d",
      "",
      "    function request(args) \x7b",
      "\x7b% if bind.kind == \"cfc\" %\x7d",
      "        // Execute bind expression: \x7b\x7b raw|js_comment \x7d\x7d",
      "        const formData = new FormData();",
      "        formData.append('method', \x7b\x7b bind.method_name|js_str \x7d\x7d);",
      "        formData.append('cfc', \x7b\x7b bind.component_path|js_str \x7d\x7d);",
      "\x7b% for param in bind.params %\x7d",
      "        formData.append(\x7b\x7b param|js_str \x7d\x7d, resolveParam(\x7b\x7b param|js_str \x7d\x7d, args));",
      "\x7b% endfor %\x7d",
      "        return fetch(\x7b\x7b remote_endpoint|js_str \x7d\x7d, \x7b",
      "            method: 'POST',",
      "            headers: \x7b 'X-Requested-With': 'XMLHttpRequest' \x7d,",
      "            body: formData",
      "        \x7d).then(handleResponse);",
      "\x7b% elif bind.kind == \"url\" %\x7d",
      "        // Fetch bind URL: \x7b\x7b raw|js_comment \x7d\x7d",
      "        const url = new URL(\x7b\x7b bind.url|js_str \x7d\x7d, window.location.href);",
      "        Object.keys(args || \x7b\x7d).forEach(function(key) \x7b",
      "            url.searchParams.set(key, args[key]);",
      "        \x7d);",
      "        return fetch(url.toString(), \x7b",
      "            method: 'GET',",
      "            headers: \x7b 'X-Requested-With': 'XMLHttpRequest' \x7d",
      "        \x7d).then(handleResponse);",
      "\x7b% else %\x7d",
      "        // Generic bind handler for: \x7b\x7b raw|js_comment \x7d\x7d",
      "        console.warn(\x7b\x7b (\"Bind expression not fully supported: \" ~ raw)|js_str \x7d\x7d);",
      "        return Promise.resolve(null);",
      "\x7b% endif %\x7d",
      "    \x7d",
      "\x7b% endmacro %\x7d",
      ""]),
  ("scripts/ajax_import.js",
    joinLines [
      "\x7b% extends \"scripts/_base.js\" %\x7d",
      "\x7b% block body %\x7d",
      "    window.BoxLangAjax = window.BoxLangAjax || \x7b",
      "        version: \x7b\x7b version|js_str \x7d\x7d,",
      "        config: \x7b",
      "            cssSrc: \x7b\x7b css_src|js_str \x7d\x7d,",
      "            scriptSrc: \x7b\x7b script_src|js_str \x7d\x7d,",
      "            remoteEndpoint: \x7b\x7b remote_endpoint|js_str \x7d\x7d",
      "        \x7d,",
      "        components: \x7b\x7d,",
      "        utils: \x7b\x7d",
      "    \x7d;",
      "",
      "    const BoxLangAjax = window.BoxLangAjax;",
      "    BoxLangAjax.config.params = \x7b\x7d;",
      "\x7b% for key, value in params %\x7d",
      "    BoxLangAjax.config.params[\x7b\x7b key|js_str \x7d\x7d] = \x7b\x7b value|js_str \x7d\x7d;",
      "\x7b% endfor %\x7d",
      "",
      "    BoxLangAjax.utils.fetchContent = async function(url, options) \x7b",
      "        const fetchOptions = Object.assign(\x7b method: 'GET' \x7d, options || \x7b\x7d);",
      "        fetchOptions.headers = Object.assign(\x7b 'X-Requested-With': 'XMLHttpRequest' \x7d, fetchOptions.headers || \x7b\x7d);",
      "        const response = await fetch(url, fetchOptions);",
      "        if (!response.ok) \x7b",
      "            throw new Error('HTTP ' + response.status + ': ' + response.statusText);",
      "        \x7d",
      "        const contentType = response.headers.get('content-type') || '';",
      "        return contentType.indexOf('application/json') !== -1 ? response.json() : response.text();",
      "    \x7d;",
      "",
      "    BoxLangAjax.utils.loadIntoContainer = function(url, containerId, options) \x7b",
      "        const container = document.getElementById(containerId);",
      "        if (!container) \x7b",
      "            return Promise.reject(new Error('Container not found: ' + containerId));",
      "        \x7d",
      "        container.innerHTML = '<div class=\"bx-loading\">Loading...</div>';",
      "        return BoxLangAjax.utils.fetchContent(url, options)",
      "            .then(function(content) \x7b",
      "                if (typeof content !== 'string') \x7b",
      "                    content = JSON.stringify(content);",
      "                \x7d",
      "                container.innerHTML = content;",
      "                container.dispatchEvent(new CustomEvent('boxlang-content-loaded', \x7b",
      "                    detail: \x7b url: url \x7d,",
      "                    bubbles: true",
      "                \x7d));",
      "                return content;",
      "            \x7d)",
      "            .catch(function(error) \x7b",
      "                const message = document.createElement('div');",
      "                message.className = 'bx-error';",
      "                message.textContent = 'Error loading content: ' + error.message;",
      "                container.replaceChildren(message);",
      "                throw error;",
      "            \x7d);",
      "    \x7d;",
      "",
      "    BoxLangAjax.utils.handleAjaxLink = function(url, event) \x7b",
      "        if (event) \x7b",
      "            event.preventDefault();",
      "        \x7d",
      "        let container = null;",
      "        let currentElement = event && event.target ? event.target : null;",
      "        while (currentElement && currentElement !== document.body) \x7b",
      "            if (currentElement.classList && (",
      "                currentElement.classList.contains('bx-layout') ||",
      "                currentElement.classList.contains('bx-div') ||",
      "                currentElement.classList.contains('bx-pod')",
      "            )) \x7b",
      "                container = currentElement;",
      "                break;",
      "            \x7d",
      "            currentElement = currentElement.parentElement;",
      "        \x7d",
      "        if (!container) \x7b",
      "            container = document.querySelector('.bx-layout, .bx-div, .bx-pod, [id]');",
      "        \x7d",
      "        if (!container) \x7b",
      "            window.location.href = url;",
      "            return Promise.resolve(null);",
      "        \x7d",
      "        if (container.classList.contains('bx-pod')) \x7b",
      "            container = container.querySelector('.bx-pod-body') || container;",
      "        \x7d",
      "        if (!container.id) \x7b",
      "            container.id = 'bx-ajax-' + Date.now();",
      "        \x7d",
      "        return BoxLangAjax.utils.loadIntoContainer(url, container.id);",
      "    \x7d;",
      "",
      "    function init() \x7b",
      "        console.log('BoxLang AJAX initialized');",
      "        document.dispatchEvent(new CustomEvent('boxlang-ajax-ready', \x7b",
      "            detail: \x7b version: BoxLangAjax.version \x7d",
      "        \x7d));",
      "    \x7d",
      "\x7b% endblock %\x7d",
      ""]),
  ("scripts/ajax_on_load.js",
    joinLines [
      "\x7b% extends \"scripts/_base.js\" %\x7d",
      "\x7b% block body %\x7d",
      "    function init() \x7b",
      "        if (typeof \x7b\x7b function_name \x7d\x7d === 'function') \x7b",
      "            \x7b\x7b function_name \x7d\x7d();",
      "        \x7d else \x7b",
      "            console.error(\x7b\x7b (\"Function \" ~ function_name ~ \" is not defined\")|js_str \x7d\x7d);",
      "        \x7d",
      "    \x7d",
      "\x7b% endblock %\x7d",
      ""]),
  ("scripts/ajax_proxy.js",
    joinLines [
      "\x7b% extends \"scripts/_base.js\" %\x7d",
      "\x7b% block body %\x7d",
      "\x7b% import \"scripts/_macros.js\" as m %\x7d",
      "\x7b% if cfc %\x7d",
      "    class \x7b\x7b class_name \x7d\x7d \x7b",
      "        constructor() \x7b",
      "            this.cfcPath = \x7b\x7b cfc|js_str \x7d\x7d;",
      "            this.endpoint = \x7b\x7b remote_endpoint|js_str \x7d\x7d;",
      "        \x7d",
      "",
      "        async callMethod(methodName, args = \x7b\x7d) \x7b",
      "            const url = this.endpoint;",
      "            const formData = new FormData();",
      "            formData.append('method', methodName);",
      "            formData.append('cfc', this.cfcPath);",
      "            Object.keys(args).forEach(function(key) \x7b",
      "                const value = args[key];",
      "                formData.append(key, value !== null && typeof value === 'object' ? JSON.stringify(value) : value);",
      "            \x7d);",
      "",
      "            const response = await fetch(url, \x7b",
      "                method: 'POST',",
      "                headers: \x7b 'X-Requested-With': 'XMLHttpRequest' \x7d,",
      "                body: formData",
      "            \x7d);",
      "            if (!response.ok) \x7b",
      "                throw new Error('HTTP ' + response.status + ': ' + response.statusText);",
      "            \x7d",
      "            const contentType = response.headers.get('content-type') || '';",
      "            return contentType.indexOf('application/json') !== -1 ? response.json() : response.text();",
      "        \x7d",
      "    \x7d",
      "",
      "    window.\x7b\x7b class_name \x7d\x7d = new \x7b\x7b class_name \x7d\x7d();",
      "\x7b% endif %\x7d",
      "\x7b% if bind %\x7d",
      "\x7b\x7b m.response_helpers() \x7d\x7d",
      "\x7b\x7b m.bind_request(bind, bind_raw, remote_endpoint) \x7d\x7d",
      "    function init() \x7b",
      "        request(\x7b\x7d).then(function(result) \x7b",
      "            \x7b\x7b m.invoke(on_success, \"result\") \x7d\x7d",
      "        \x7d).catch(function(error) \x7b",
      "\x7b% if on_error %\x7d",
      "            \x7b\x7b m.invoke(on_error, \"error.message, error\") \x7d\x7d",
      "\x7b% else %\x7d",
      "            console.error('Bind request failed: ' + error.message);",
      "\x7b% endif %\x7d",
      "        \x7d);",
      "    \x7d",
      "\x7b% endif %\x7d",
      "\x7b% endblock %\x7d",
      "\x7b% block ready %\x7d\x7b% if bind %\x7d\x7b\x7b super() \x7d\x7d\x7b% endif %\x7d\x7b% endblock %\x7d",
      ""]),
  ("scripts/div.js",
    joinLines [
      "\x7b% extends \"scripts/_base.js\" %\x7d",
      "\x7b% block body %\x7d",
      "\x7b% import \"scripts/_macros.js\" as m %\x7d",
      "\x7b\x7b m.response_helpers() \x7d\x7d",
      "\x7b\x7b m.bind_request(bind, bind_raw, remote_endpoint) \x7d\x7d",
      "    function init() \x7b",
      "        const divElement = document.getElementById(\x7b\x7b div_id|js_str \x7d\x7d);",
      "        if (!divElement || divElement.dataset.bxInitialized === 'true') \x7b",
      "            return;",
      "        \x7d",
      "        divElement.dataset.bxInitialized = 'true';",
      "",
      "        function executeBind(args) \x7b",
      "            divElement.classList.add('bx-bind-active');",
      "            return request(args || \x7b\x7d)",
      "                .then(function(content) \x7b",
      "                    if (content !== null) \x7b",
      "                        divElement.innerHTML = typeof content === 'string' ? content : JSON.stringify(content);",
      "                    \x7d",
      "                    divElement.dispatchEvent(new CustomEvent('bindSuccess', \x7b",
      "                        detail: \x7b content: content \x7d,",
      "                        bubbles: true",
      "                    \x7d));",
      "                    return content;",
      "                \x7d)",
      "                .catch(function(error) \x7b",
      "                    const message = document.createElement('div');",
      "                    message.className = 'bx-bind-error';",
      "                    message.textContent = 'Error loading content: ' + error.message;",
      "                    divElement.replaceChildren(message);",
      "                    divElement.dispatchEvent(new CustomEvent('bindError', \x7b",
      "                        detail: \x7b error: error.message \x7d,",
      "                        bubbles: true",
      "                    \x7d));",
      "                    \x7b\x7b m.invoke(on_bind_error, \"error.message, error\") \x7d\x7d",
      "                \x7d)",
      "                .finally(function() \x7b",
      "                    divElement.classList.remove('bx-bind-active');",
      "                \x7d);",
      "        \x7d",
      "",
      "        divElement.executeBind = executeBind;",
      "\x7b% if bind_on_load %\x7d",
      "        executeBind();",
      "\x7b% endif %\x7d",
      "    \x7d",
      "\x7b% endblock %\x7d",
      ""]),
  ("scripts/grid.js",
    joinLines [
      "\x7b% extends \"scripts/_base.js\" %\x7d",
      "\x7b% block body %\x7d",
      "\x7b% import \"scripts/_macros.js\" as m %\x7d",
      "    function init() \x7b",
      "        const gridElement = document.getElementById(\x7b\x7b grid_id|js_str \x7d\x7d);",
      "        if (!gridElement || gridElement.dataset.bxInitialized === 'true') \x7b",
      "            return;",
      "        \x7d",
      "        gridElement.dataset.bxInitialized = 'true';",
      "",
      "        const gridName = \x7b\x7b grid_name|js_str \x7d\x7d;",
      "        const sortState = \x7b column: null, direction: 'asc' \x7d;",
      "",
      "        function fire(name, detail) \x7b",
      "            const event = new CustomEvent(name, \x7b",
      "                detail: Object.assign(\x7b gridName: gridName \x7d, detail || \x7b\x7d),",
      "                bubbles: true,",
      "                cancelable: true",
      "            \x7d);",
      "            return gridElement.dispatchEvent(event);",
      "        \x7d",
      "",
      "        function cellValue(row, column) \x7b",
      "            const cell = row.querySelector('.bx-grid-cell[data-column=\"' + column + '\"]');",
      "            return cell ? cell.textContent.trim() : '';",
      "        \x7d",
      "",
      "        function sortColumn(column) \x7b",
      "            if (gridElement.dataset.sortable !== 'true') \x7b",
      "                return;",
      "            \x7d",
      "            const header = gridElement.querySelector('.bx-grid-column-header[data-column=\"' + column + '\"]');",
      "            if (header && header.dataset.sortable === 'false') \x7b",
      "                return;",
      "            \x7d",
      "            sortState.direction = sortState.column === column && sortState.direction === 'asc' ? 'desc' : 'asc';",
      "            sortState.column = column;",
      "",
      "            const numeric = header && (header.dataset.type === 'numeric' || header.dataset.type === 'currency');",
      "            const tbody = gridElement.querySelector('.bx-grid-body');",
      "            const rows = Array.from(tbody.querySelectorAll('.bx-grid-row'));",
      "            rows.sort(function(a, b) \x7b",
      "                const left = cellValue(a, column);",
      "                const right = cellValue(b, column);",
      "                const result = numeric",
      "                    ? (parseFloat(left) || 0) - (parseFloat(right) || 0)",
      "                    : left.localeCompare(right);",
      "                return sortState.direction === 'asc' ? result : -result;",
      "            \x7d);",
      "            rows.forEach(function(row) \x7b",
      "                tbody.appendChild(row);",
      "            \x7d);",
      "",
      "            gridElement.querySelectorAll('.bx-grid-column-header').forEach(function(th) \x7b",
      "                th.classList.remove('bx-grid-sorted-asc', 'bx-grid-sorted-desc');",
      "            \x7d);",
      "            if (header) \x7b",
      "                header.classList.add('bx-grid-sorted-' + sortState.direction);",
      "            \x7d",
      "",
      "            fire('gridSort', \x7b column: column, direction: sortState.direction \x7d);",
      "            \x7b\x7b m.invoke(on_sort, \"column, sortState.direction\") \x7d\x7d",
      "        \x7d",
      "",
      "        function goToPage(page) \x7b",
      "            const totalPages = parseInt(gridElement.dataset.totalPages || '0', 10);",
      "            const pageSize = parseInt(gridElement.dataset.pageSize || '0', 10);",
      "            if (page < 1 || (totalPages && page > totalPages)) \x7b",
      "                return;",
      "            \x7d",
      "            if (!fire('gridPageChange', \x7b page: page, pageSize: pageSize \x7d)) \x7b",
      "                return;",
      "            \x7d",
      "            const ajax = window.BoxLangAjax;",
      "            if (gridElement.dataset.source && ajax && ajax.components && ajax.components.grid) \x7b",
      "                ajax.components.grid.loadData(gridElement.id, page, pageSize);",
      "                return;",
      "            \x7d",
      "            const params = new URLSearchParams(window.location.search);",
      "            params.set(gridName + 'Page', page);",
      "            window.location.search = params.toString();",
      "        \x7d",
      "",
      "        function getSelectedRows() \x7b",
      "            return Array.from(gridElement.querySelectorAll('.bx-grid-select:checked')).map(function(input) \x7b",
      "                return parseInt(input.value, 10);",
      "            \x7d);",
      "        \x7d",
      "",
      "        function selectionChanged() \x7b",
      "            const selected = getSelectedRows();",
      "            fire('gridSelectionChange', \x7b selected: selected \x7d);",
      "            \x7b\x7b m.invoke(on_change, \"selected\") \x7d\x7d",
      "        \x7d",
      "",
      "        function toggleSelectAll(checked) \x7b",
      "            gridElement.querySelectorAll('.bx-grid-select').forEach(function(input) \x7b",
      "                input.checked = checked;",
      "            \x7d);",
      "            selectionChanged();",
      "        \x7d",
      "",
      "        function editCell(cell) \x7b",
      "            if (cell.querySelector('.bx-grid-cell-editor')) \x7b",
      "                return;",
      "            \x7d",
      "            const row = cell.closest('.bx-grid-row');",
      "            const oldValue = cell.textContent.trim();",
      "            const input = document.createElement('input');",
      "            input.type = 'text';",
      "            input.className = 'bx-grid-cell-editor';",
      "            input.value = oldValue;",
      "            cell.textContent = '';",
      "            cell.appendChild(input);",
      "            input.focus();",
      "",
      "            function commit() \x7b",
      "                const newValue = input.value;",
      "                cell.textContent = newValue;",
      "                if (newValue === oldValue) \x7b",
      "                    return;",
      "                \x7d",
      "                const detail = \x7b",
      "                    rowIndex: parseInt(row.dataset.rowIndex, 10),",
      "                    column: cell.dataset.column,",
      "                    oldValue: oldValue,",
      "                    newValue: newValue",
      "                \x7d;",
      "                fire('gridCellEdit', detail);",
      "                \x7b\x7b m.invoke(on_edit, \"detail\") \x7d\x7d",
      "            \x7d",
      "",
      "            input.addEventListener('blur', commit, \x7b once: true \x7d);",
      "            input.addEventListener('keydown', function(event) \x7b",
      "                if (event.key === 'Escape') \x7b",
      "                    input.value = oldValue;",
      "                \x7d",
      "                if (event.key === 'Enter' || event.key === 'Escape') \x7b",
      "                    input.blur();",
      "                \x7d",
      "            \x7d);",
      "        \x7d",
      "",
      "        gridElement.addEventListener('click', function(event) \x7b",
      "            const target = event.target;",
      "            if (target.closest('.bx-grid') !== gridElement) \x7b",
      "                return;",
      "            \x7d",
      "            const pageButton = target.closest('.bx-grid-page-btn');",
      "            if (pageButton) \x7b",
      "                if (!pageButton.disabled) \x7b",
      "                    goToPage(parseInt(pageButton.dataset.page, 10));",
      "                \x7d",
      "                return;",
      "            \x7d",
      "            if (target.classList.contains('bx-grid-select-all')) \x7b",
      "                toggleSelectAll(target.checked);",
      "                return;",
      "            \x7d",
      "            if (target.classList.contains('bx-grid-select')) \x7b",
      "                selectionChanged();",
      "                return;",
      "            \x7d",
      "            const header = target.closest('.bx-grid-column-header');",
      "            if (header) \x7b",
      "                sortColumn(header.dataset.column);",
      "            \x7d",
      "        \x7d);",
      "",
      "        gridElement.addEventListener('dblclick', function(event) \x7b",
      "            const cell = event.target.closest('.bx-grid-cell');",
      "            if (!cell || gridElement.dataset.editable !== 'true' || cell.dataset.editable === 'false') \x7b",
      "                return;",
      "            \x7d",
      "            editCell(cell);",
      "        \x7d);",
      "",
      "        gridElement.sortColumn = sortColumn;",
      "        gridElement.goToPage = goToPage;",
      "        gridElement.toggleSelectAll = toggleSelectAll;",
      "        gridElement.getSelectedRows = getSelectedRows;",
      "",
      "        fire('gridLoad', \x7b\x7d);",
      "        \x7b\x7b m.invoke(on_load, \"gridElement\") \x7d\x7d",
      "    \x7d",
      "\x7b% endblock %\x7d",
      ""]),
  ("scripts/grid_update.js",
    joinLines [
      "\x7b% extends \"scripts/_base.js\" %\x7d",
      "\x7b% block body %\x7d",
      "\x7b% import \"scripts/_macros.js\" as m %\x7d",
      "    const gridName = \x7b\x7b grid_name|js_str \x7d\x7d;",
      "\x7b\x7b m.response_helpers() \x7d\x7d",
      "    function init() \x7b",
      "        const updateForm = document.getElementById(\x7b\x7b form_id|js_str \x7d\x7d);",
      "        if (!updateForm || updateForm.dataset.bxInitialized === 'true') \x7b",
      "            return;",
      "        \x7d",
      "        updateForm.dataset.bxInitialized = 'true';",
      "",
      "        const gridElement = document.querySelector('.bx-grid[data-name=\"' + gridName + '\"]');",
      "        const eventTarget = gridElement || document;",
      "        const modifiedCells = new Map();",
      "        const deletedRows = new Set();",
      "        let newRows = [];",
      "",
      "        function forThisGrid(event) \x7b",
      "            const detail = event.detail || \x7b\x7d;",
      "            return !detail.gridName || detail.gridName === gridName;",
      "        \x7d",
      "",
      "        eventTarget.addEventListener('gridCellEdit', function(event) \x7b",
      "            if (forThisGrid(event)) \x7b",
      "                modifiedCells.set(event.detail.rowIndex + ':' + event.detail.column, event.detail);",
      "            \x7d",
      "        \x7d);",
      "        eventTarget.addEventListener('gridRowDelete', function(event) \x7b",
      "            if (forThisGrid(event)) \x7b",
      "                deletedRows.add(event.detail.rowIndex);",
      "            \x7d",
      "        \x7d);",
      "        eventTarget.addEventListener('gridRowAdd', function(event) \x7b",
      "            if (forThisGrid(event)) \x7b",
      "                newRows.push(event.detail.row || \x7b\x7d);",
      "            \x7d",
      "        \x7d);",
      "",
      "        function collectChanges() \x7b",
      "            return \x7b",
      "                modified: Array.from(modifiedCells.values()),",
      "                deleted: Array.from(deletedRows),",
      "                added: newRows.slice()",
      "            \x7d;",
      "        \x7d",
      "",
      "        function fire(name, detail) \x7b",
      "            (gridElement || updateForm).dispatchEvent(new CustomEvent(name, \x7b",
      "                detail: Object.assign(\x7b gridName: gridName \x7d, detail),",
      "                bubbles: true",
      "            \x7d));",
      "        \x7d",
      "",
      "        function succeed(result) \x7b",
      "            modifiedCells.clear();",
      "            deletedRows.clear();",
      "            newRows = [];",
      "            fire('gridUpdateSuccess', \x7b result: result \x7d);",
      "            \x7b\x7b m.invoke(on_success, \"result\") \x7d\x7d",
      "            return result;",
      "        \x7d",
      "",
      "        function fail(error) \x7b",
      "            fire('gridUpdateError', \x7b error: error.message \x7d);",
      "            \x7b\x7b m.invoke(on_error, \"error.message, error\") \x7d\x7d",
      "        \x7d",
      "",
      "\x7b% if mode == \"database\" %\x7d",
      "        function updateDatabase() \x7b",
      "            const payload = \x7b",
      "                gridName: gridName,",
      "                dataSource: \x7b\x7b data_source|js_str \x7d\x7d,",
      "                tableName: \x7b\x7b table_name|js_str \x7d\x7d,",
      "                tableOwner: \x7b\x7b table_owner|js_str \x7d\x7d,",
      "                tableQualifier: \x7b\x7b table_qualifier|js_str \x7d\x7d,",
      "                keyOnly: \x7b\x7b key_only|js_bool \x7d\x7d,",
      "                changes: collectChanges()",
      "            \x7d;",
      "\x7b% if username %\x7d",
      "            payload.username = \x7b\x7b username|js_str \x7d\x7d;",
      "\x7b% endif %\x7d",
      "\x7b% if password %\x7d",
      "            payload.password = \x7b\x7b password|js_str \x7d\x7d;",
      "\x7b% endif %\x7d",
      "            return fetch(\x7b\x7b endpoint|js_str \x7d\x7d, \x7b",
      "                method: 'POST',",
      "                headers: \x7b",
      "                    'Content-Type': 'application/json',",
      "                    'X-Requested-With': 'XMLHttpRequest'",
      "                \x7d,",
      "                body: JSON.stringify(payload)",
      "            \x7d).then(handleResponse).then(succeed).catch(fail);",
      "        \x7d",
      "",
      "        window[\x7b\x7b (\"updateGrid_\" ~ grid_name)|js_str \x7d\x7d] = function() \x7b",
      "            return updateDatabase();",
      "        \x7d;",
      "\x7b% else %\x7d",
      "        function updateViaURL() \x7b",
      "            updateForm.querySelector('input[name=\"gridData\"]').value = JSON.stringify(collectChanges());",
      "            const formData = new FormData(updateForm);",
      "            return fetch(\x7b\x7b url|js_str \x7d\x7d, \x7b",
      "                method: \x7b\x7b method|js_str \x7d\x7d,",
      "                headers: \x7b 'X-Requested-With': 'XMLHttpRequest' \x7d,",
      "                body: formData",
      "            \x7d).then(handleResponse).then(succeed).catch(fail);",
      "        \x7d",
      "",
      "        window[\x7b\x7b (\"updateGrid_\" ~ grid_name)|js_str \x7d\x7d] = function() \x7b",
      "            return updateViaURL();",
      "        \x7d;",
      "\x7b% endif %\x7d",
      "    \x7d",
      "\x7b% endblock %\x7d",
      ""]),
  ("scripts/layout.js",
    joinLines [
      "\x7b% extends \"scripts/_base.js\" %\x7d",
      "\x7b% block body %\x7d",
      "\x7b% import \"scripts/_macros.js\" as m %\x7d",
      "\x7b\x7b m.response_helpers() \x7d\x7d",
      "    function init() \x7b",
      "        const layoutElement = document.getElementById(\x7b\x7b layout_id|js_str \x7d\x7d);",
      "        if (!layoutElement || layoutElement.dataset.bxInitialized === 'true') \x7b",
      "            return;",
      "        \x7d",
      "        layoutElement.dataset.bxInitialized = 'true';",
      "",
      "        function owns(element) \x7b",
      "            return element && element.closest('.bx-layout') === layoutElement;",
      "        \x7d",
      "",
      "        function loadArea(area) \x7b",
      "            const sourceUrl = area.dataset.source;",
      "            if (!sourceUrl || area.dataset.bxLoaded === 'true') \x7b",
      "                return;",
      "            \x7d",
      "            area.dataset.bxLoaded = 'true';",
      "            const target = area.querySelector('.bx-accordion-content') || area;",
      "            fetch(sourceUrl, \x7b headers: \x7b 'X-Requested-With': 'XMLHttpRequest' \x7d \x7d)",
      "                .then(handleResponse)",
      "                .then(function(content) \x7b",
      "                    target.innerHTML = typeof content === 'string' ? content : JSON.stringify(content);",
      "                \x7d)",
      "                .catch(function(error) \x7b",
      "                    const message = document.createElement('div');",
      "                    message.className = 'bx-source-error';",
      "                    message.textContent = 'Error loading content: ' + error.message;",
      "                    target.replaceChildren(message);",
      "                \x7d);",
      "        \x7d",
      "",
      "\x7b% if layout_type == \"tab\" %\x7d",
      "        function selectTab(index) \x7b",
      "            const headers = Array.from(layoutElement.querySelectorAll('.bx-tab-header')).filter(owns);",
      "            const panels = Array.from(layoutElement.querySelectorAll('.bx-tab-panel')).filter(owns);",
      "            headers.forEach(function(header, i) \x7b",
      "                header.classList.toggle('active', i === index);",
      "                header.setAttribute('aria-selected', i === index ? 'true' : 'false');",
      "            \x7d);",
      "            panels.forEach(function(panel, i) \x7b",
      "                panel.classList.toggle('active', i === index);",
      "                if (i === index) \x7b",
      "                    loadArea(panel);",
      "                \x7d",
      "            \x7d);",
      "            layoutElement.dispatchEvent(new CustomEvent('layoutTabChange', \x7b",
      "                detail: \x7b index: index \x7d,",
      "                bubbles: true",
      "            \x7d));",
      "        \x7d",
      "",
      "        layoutElement.addEventListener('click', function(event) \x7b",
      "            const header = event.target.closest('.bx-tab-header');",
      "            if (owns(header)) \x7b",
      "                selectTab(parseInt(header.dataset.tabIndex, 10));",
      "            \x7d",
      "        \x7d);",
      "",
      "        layoutElement.selectTab = selectTab;",
      "        Array.from(layoutElement.querySelectorAll('.bx-tab-panel.active')).filter(owns).forEach(loadArea);",
      "\x7b% elif layout_type == \"accordion\" %\x7d",
      "        function togglePanel(panel) \x7b",
      "            if (panel.dataset.collapsible === 'false') \x7b",
      "                return;",
      "            \x7d",
      "            const collapsed = panel.classList.toggle('collapsed');",
      "            const header = panel.querySelector('.bx-accordion-header');",
      "            if (header) \x7b",
      "                header.setAttribute('aria-expanded', collapsed ? 'false' : 'true');",
      "            \x7d",
      "            if (!collapsed) \x7b",
      "                loadArea(panel);",
      "            \x7d",
      "            layoutElement.dispatchEvent(new CustomEvent('layoutPanelToggle', \x7b",
      "                detail: \x7b index: parseInt(panel.dataset.areaIndex, 10), collapsed: collapsed \x7d,",
      "                bubbles: true",
      "            \x7d));",
      "        \x7d",
      "",
      "        layoutElement.addEventListener('click', function(event) \x7b",
      "            const header = event.target.closest('.bx-accordion-header');",
      "            if (owns(header)) \x7b",
      "                togglePanel(header.closest('.bx-accordion-panel'));",
      "            \x7d",
      "        \x7d);",
      "",
      "        layoutElement.togglePanel = togglePanel;",
      "        Array.from(layoutElement.querySelectorAll('.bx-accordion-panel:not(.collapsed)')).filter(owns).forEach(loadArea);",
      "\x7b% else %\x7d",
      "        Array.from(layoutElement.querySelectorAll('[data-source]')).filter(owns).forEach(loadArea);",
      "\x7b% endif %\x7d",
      "    \x7d",
      "\x7b% endblock %\x7d",
      ""]),
  ("scripts/pod.js",
    joinLines [
      "\x7b% extends \"scripts/_base.js\" %\x7d",
      "\x7b% block body %\x7d",
      "\x7b% import \"scripts/_macros.js\" as m %\x7d",
      "\x7b\x7b m.response_helpers() \x7d\x7d",
      "    function init() \x7b",
      "        const podElement = document.getElementById(\x7b\x7b pod_id|js_str \x7d\x7d);",
      "        if (!podElement || podElement.dataset.bxInitialized === 'true') \x7b",
      "            return;",
      "        \x7d",
      "        podElement.dataset.bxInitialized = 'true';",
      "",
      "        const sourceUrl = podElement.dataset.source;",
      "        const podBody = podElement.querySelector('.bx-pod-body');",
      "",
      "        function handleError(error) \x7b",
      "            const message = document.createElement('div');",
      "            message.className = 'bx-source-error';",
      "            message.textContent = 'Error loading content: ' + error.message;",
      "            podBody.replaceChildren(message);",
      "            podElement.dispatchEvent(new CustomEvent('podLoadError', \x7b",
      "                detail: \x7b source: sourceUrl, error: error.message \x7d,",
      "                bubbles: true",
      "            \x7d));",
      "            \x7b\x7b m.invoke(on_bind_error, \"error.message, error\") \x7d\x7d",
      "        \x7d",
      "",
      "        function loadSource() \x7b",
      "            return fetch(sourceUrl, \x7b",
      "                headers: \x7b 'X-Requested-With': 'XMLHttpRequest' \x7d",
      "            \x7d)",
      "                .then(handleResponse)",
      "                .then(function(content) \x7b",
      "                    podBody.innerHTML = typeof content === 'string' ? content : JSON.stringify(content);",
      "                    podElement.dispatchEvent(new CustomEvent('podLoaded', \x7b",
      "                        detail: \x7b source: sourceUrl \x7d,",
      "                        bubbles: true",
      "                    \x7d));",
      "                \x7d)",
      "                .catch(handleError);",
      "        \x7d",
      "",
      "        podElement.refresh = loadSource;",
      "        loadSource();",
      "    \x7d",
      "\x7b% endblock %\x7d",
      ""])
]

/-- The templates a packaged template loads. -/
def packagedUses (name : String) : List String :=
  if name.startsWith "scripts/" then ["scripts/_base.js", "scripts/_macros.js"]
  else if name == "pod.html" || name == "div.html" || name == "grid.html" ||
      name == "layout.html" then ["_macros.html"]
  else []

end Template
end UiTags
