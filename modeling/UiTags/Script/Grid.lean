import UiTags.Script.Wrapper

/-!
# Grid script

Wires a grid: sorting by a column header, paging, row selection and cell editing, each firing a
grid event and then the configured callback, if any.
-/

namespace UiTags
namespace Script

/-- The script of a grid with element id `gridId` and name `gridName`, and the callbacks for
load, edit, sort and selection change. -/
def gridScript (gridId gridName onLoad onEdit onSort onChange : Value) : String :=
  block (
    lines ["    function init() \x7b"] ++
    "        const gridElement = document.getElementById(" ++ quoted gridId ++ ");\n" ++
    lines ["        if (!gridElement || gridElement.dataset.bxInitialized === 'true') \x7b",
     "            return;",
     "        \x7d",
     "        gridElement.dataset.bxInitialized = 'true';",
     ""] ++
    "        const gridName = " ++ quoted gridName ++ ";\n" ++
    lines ["        const sortState = \x7b column: null, direction: 'asc' \x7d;",
     "",
     "        function fire(name, detail) \x7b",
     "            const event = new CustomEvent(name, \x7b",
     "                detail: Object.assign(\x7b gridName: gridName \x7d, detail || \x7b\x7d),",
     "                bubbles: true,",
     "                cancelable: true",
     "            \x7d);",
     "            return gridElement.dispatchEvent(event);",
     "        \x7d",
     "",
     "        function cellValue(row, column) \x7b",
     "            const cell = row.querySelector('.bx-grid-cell[data-column=\"' + column + '\"]');",
     "            return cell ? cell.textContent.trim() : '';",
     "        \x7d",
     "",
     "        function sortColumn(column) \x7b",
     "            if (gridElement.dataset.sortable !== 'true') \x7b",
     "                return;",
     "            \x7d",
     "            const header = gridElement.querySelector('.bx-grid-column-header[data-column=\"' + column + '\"]');",
     "            if (header && header.dataset.sortable === 'false') \x7b",
     "                return;",
     "            \x7d",
     "            sortState.direction = sortState.column === column && sortState.direction === 'asc' ? 'desc' : 'asc';",
     "            sortState.column = column;",
     "",
     "            const numeric = header && (header.dataset.type === 'numeric' || header.dataset.type === 'currency');",
     "            const tbody = gridElement.querySelector('.bx-grid-body');",
     "            const rows = Array.from(tbody.querySelectorAll('.bx-grid-row'));",
     "            rows.sort(function(a, b) \x7b",
     "                const left = cellValue(a, column);",
     "                const right = cellValue(b, column);",
     "                const result = numeric",
     "                    ? (parseFloat(left) || 0) - (parseFloat(right) || 0)",
     "                    : left.localeCompare(right);",
     "                return sortState.direction === 'asc' ? result : -result;",
     "            \x7d);",
     "            rows.forEach(function(row) \x7b",
     "                tbody.appendChild(row);",
     "            \x7d);",
     "",
     "            gridElement.querySelectorAll('.bx-grid-column-header').forEach(function(th) \x7b",
     "                th.classList.remove('bx-grid-sorted-asc', 'bx-grid-sorted-desc');",
     "            \x7d);",
     "            if (header) \x7b",
     "                header.classList.add('bx-grid-sorted-' + sortState.direction);",
     "            \x7d",
     "",
     "            fire('gridSort', \x7b column: column, direction: sortState.direction \x7d);"] ++
    "            " ++ invoke onSort "column, sortState.direction" ++ "\n" ++
    lines ["        \x7d",
     "",
     "        function goToPage(page) \x7b",
     "            const totalPages = parseInt(gridElement.dataset.totalPages || '0', 10);",
     "            const pageSize = parseInt(gridElement.dataset.pageSize || '0', 10);",
     "            if (page < 1 || (totalPages && page > totalPages)) \x7b",
     "                return;",
     "            \x7d",
     "            if (!fire('gridPageChange', \x7b page: page, pageSize: pageSize \x7d)) \x7b",
     "                return;",
     "            \x7d",
     "            const ajax = window.BoxLangAjax;",
     "            if (gridElement.dataset.source && ajax && ajax.components && ajax.components.grid) \x7b",
     "                ajax.components.grid.loadData(gridElement.id, page, pageSize);",
     "                return;",
     "            \x7d",
     "            const params = new URLSearchParams(window.location.search);",
     "            params.set(gridName + 'Page', page);",
     "            window.location.search = params.toString();",
     "        \x7d",
     "",
     "        function getSelectedRows() \x7b",
     "            return Array.from(gridElement.querySelectorAll('.bx-grid-select:checked')).map(function(input) \x7b",
     "                return parseInt(input.value, 10);",
     "            \x7d);",
     "        \x7d",
     "",
     "        function selectionChanged() \x7b",
     "            const selected = getSelectedRows();",
     "            fire('gridSelectionChange', \x7b selected: selected \x7d);"] ++
    "            " ++ invoke onChange "selected" ++ "\n" ++
    lines ["        \x7d",
     "",
     "        function toggleSelectAll(checked) \x7b",
     "            gridElement.querySelectorAll('.bx-grid-select').forEach(function(input) \x7b",
     "                input.checked = checked;",
     "            \x7d);",
     "            selectionChanged();",
     "        \x7d",
     "",
     "        function editCell(cell) \x7b",
     "            if (cell.querySelector('.bx-grid-cell-editor')) \x7b",
     "                return;",
     "            \x7d",
     "            const row = cell.closest('.bx-grid-row');",
     "            const oldValue = cell.textContent.trim();",
     "            const input = document.createElement('input');",
     "            input.type = 'text';",
     "            input.className = 'bx-grid-cell-editor';",
     "            input.value = oldValue;",
     "            cell.textContent = '';",
     "            cell.appendChild(input);",
     "            input.focus();",
     "",
     "            function commit() \x7b",
     "                const newValue = input.value;",
     "                cell.textContent = newValue;",
     "                if (newValue === oldValue) \x7b",
     "                    return;",
     "                \x7d",
     "                const detail = \x7b",
     "                    rowIndex: parseInt(row.dataset.rowIndex, 10),",
     "                    column: cell.dataset.column,",
     "                    oldValue: oldValue,",
     "                    newValue: newValue",
     "                \x7d;",
     "                fire('gridCellEdit', detail);"] ++
    "                " ++ invoke onEdit "detail" ++ "\n" ++
    lines ["            \x7d",
     "",
     "            input.addEventListener('blur', commit, \x7b once: true \x7d);",
     "            input.addEventListener('keydown', function(event) \x7b",
     "                if (event.key === 'Escape') \x7b",
     "                    input.value = oldValue;",
     "                \x7d",
     "                if (event.key === 'Enter' || event.key === 'Escape') \x7b",
     "                    input.blur();",
     "                \x7d",
     "            \x7d);",
     "        \x7d",
     "",
     "        gridElement.addEventListener('click', function(event) \x7b",
     "            const target = event.target;",
     "            if (target.closest('.bx-grid') !== gridElement) \x7b",
     "                return;",
     "            \x7d",
     "            const pageButton = target.closest('.bx-grid-page-btn');",
     "            if (pageButton) \x7b",
     "                if (!pageButton.disabled) \x7b",
     "                    goToPage(parseInt(pageButton.dataset.page, 10));",
     "                \x7d",
     "                return;",
     "            \x7d",
     "            if (target.classList.contains('bx-grid-select-all')) \x7b",
     "                toggleSelectAll(target.checked);",
     "                return;",
     "            \x7d",
     "            if (target.classList.contains('bx-grid-select')) \x7b",
     "                selectionChanged();",
     "                return;",
     "            \x7d",
     "            const header = target.closest('.bx-grid-column-header');",
     "            if (header) \x7b",
     "                sortColumn(header.dataset.column);",
     "            \x7d",
     "        \x7d);",
     "",
     "        gridElement.addEventListener('dblclick', function(event) \x7b",
     "            const cell = event.target.closest('.bx-grid-cell');",
     "            if (!cell || gridElement.dataset.editable !== 'true' || cell.dataset.editable === 'false') \x7b",
     "                return;",
     "            \x7d",
     "            editCell(cell);",
     "        \x7d);",
     "",
     "        gridElement.sortColumn = sortColumn;",
     "        gridElement.goToPage = goToPage;",
     "        gridElement.toggleSelectAll = toggleSelectAll;",
     "        gridElement.getSelectedRows = getSelectedRows;",
     "",
     "        fire('gridLoad', \x7b\x7d);"] ++
    "        " ++ invoke onLoad "gridElement" ++ "\n" ++
    lines ["    \x7d"])

end Script
end UiTags
