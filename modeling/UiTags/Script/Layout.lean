import UiTags.Script.Wrapper

/-!
# Layout script

Loads the content of areas that have a source, and wires tab selection or accordion panels
for those layout types.
-/

namespace UiTags
namespace Script

/-- The script of a layout with element id `layoutId` and type `layoutType`. -/
def layoutScript (layoutId layoutType : Value) : String :=
  block (
    responseHelpers ++ "\n" ++
    lines ["    function init() \x7b"] ++
    "        const layoutElement = document.getElementById(" ++ quoted layoutId ++ ");\n" ++
    lines ["        if (!layoutElement || layoutElement.dataset.bxInitialized === 'true') \x7b",
     "            return;",
     "        \x7d",
     "        layoutElement.dataset.bxInitialized = 'true';",
     "",
     "        function owns(element) \x7b",
     "            return element && element.closest('.bx-layout') === layoutElement;",
     "        \x7d",
     "",
     "        function loadArea(area) \x7b",
     "            const sourceUrl = area.dataset.source;",
     "            if (!sourceUrl || area.dataset.bxLoaded === 'true') \x7b",
     "                return;",
     "            \x7d",
     "            area.dataset.bxLoaded = 'true';",
     "            const target = area.querySelector('.bx-accordion-content') || area;",
     "            fetch(sourceUrl, \x7b headers: \x7b 'X-Requested-With': 'XMLHttpRequest' \x7d \x7d)",
     "                .then(handleResponse)",
     "                .then(function(content) \x7b",
     "                    target.innerHTML = typeof content === 'string' ? content : JSON.stringify(content);",
     "                \x7d)",
     "                .catch(function(error) \x7b",
     "                    const message = document.createElement('div');",
     "                    message.className = 'bx-source-error';",
     "                    message.textContent = 'Error loading content: ' + error.message;",
     "                    target.replaceChildren(message);",
     "                \x7d);",
     "        \x7d",
     ""] ++
    (if layoutType == .str "tab" then
       lines ["        function selectTab(index) \x7b",
        "            const headers = Array.from(layoutElement.querySelectorAll('.bx-tab-header')).filter(owns);",
        "            const panels = Array.from(layoutElement.querySelectorAll('.bx-tab-panel')).filter(owns);",
        "            headers.forEach(function(header, i) \x7b",
        "                header.classList.toggle('active', i === index);",
        "                header.setAttribute('aria-selected', i === index ? 'true' : 'false');",
        "            \x7d);",
        "            panels.forEach(function(panel, i) \x7b",
        "                panel.classList.toggle('active', i === index);",
        "                if (i === index) \x7b",
        "                    loadArea(panel);",
        "                \x7d",
        "            \x7d);",
        "            layoutElement.dispatchEvent(new CustomEvent('layoutTabChange', \x7b",
        "                detail: \x7b index: index \x7d,",
        "                bubbles: true",
        "            \x7d));",
        "        \x7d",
        "",
        "        layoutElement.addEventListener('click', function(event) \x7b",
        "            const header = event.target.closest('.bx-tab-header');",
        "            if (owns(header)) \x7b",
        "                selectTab(parseInt(header.dataset.tabIndex, 10));",
        "            \x7d",
        "        \x7d);",
        "",
        "        layoutElement.selectTab = selectTab;",
        "        Array.from(layoutElement.querySelectorAll('.bx-tab-panel.active')).filter(owns).forEach(loadArea);"]
     else if layoutType == .str "accordion" then
       lines ["        function togglePanel(panel) \x7b",
        "            if (panel.dataset.collapsible === 'false') \x7b",
        "                return;",
        "            \x7d",
        "            const collapsed = panel.classList.toggle('collapsed');",
        "            const header = panel.querySelector('.bx-accordion-header');",
        "            if (header) \x7b",
        "                header.setAttribute('aria-expanded', collapsed ? 'false' : 'true');",
        "            \x7d",
        "            if (!collapsed) \x7b",
        "                loadArea(panel);",
        "            \x7d",
        "            layoutElement.dispatchEvent(new CustomEvent('layoutPanelToggle', \x7b",
        "                detail: \x7b index: parseInt(panel.dataset.areaIndex, 10), collapsed: collapsed \x7d,",
        "                bubbles: true",
        "            \x7d));",
        "        \x7d",
        "",
        "        layoutElement.addEventListener('click', function(event) \x7b",
        "            const header = event.target.closest('.bx-accordion-header');",
        "            if (owns(header)) \x7b",
        "                togglePanel(header.closest('.bx-accordion-panel'));",
        "            \x7d",
        "        \x7d);",
        "",
        "        layoutElement.togglePanel = togglePanel;",
        "        Array.from(layoutElement.querySelectorAll('.bx-accordion-panel:not(.collapsed)')).filter(owns).forEach(loadArea);"]
     else
       lines ["        Array.from(layoutElement.querySelectorAll('[data-source]')).filter(owns).forEach(loadArea);"]) ++
    lines ["    \x7d"])

end Script
end UiTags
