import UiTags.Script.Wrapper

/-!
# Grid update script

Collects the edits, deletions and additions a grid reports, and sends them either to the
database update endpoint as JSON or to a URL as a form, then fires a success or error event and
the configured callback.
-/

namespace UiTags
namespace Script

/-- Where a grid update sends its changes. -/
inductive UpdateTarget where
  /-- The database endpoint, with data source, table, owner, qualifier, user, password and
  whether only keys are sent. -/
  | database (dataSource tableName tableOwner tableQualifier username password keyOnly : Value)
  /-- A URL, with its request method. -/
  | url (target method : Value)

/-- The script of a grid update for the grid named `gridName`, whose form has id `formId`. -/
def updateScript (gridName formId endpoint : Value) (target : UpdateTarget)
    (onSuccess onError : Value) : String :=
  block (
    "    const gridName = " ++ quoted gridName ++ ";\n" ++
    responseHelpers ++ "\n" ++
    lines ["    function init() \x7b"] ++
    "        const updateForm = document.getElementById(" ++ quoted formId ++ ");\n" ++
    lines ["        if (!updateForm || updateForm.dataset.bxInitialized === 'true') \x7b",
     "            return;",
     "        \x7d",
     "        updateForm.dataset.bxInitialized = 'true';",
     "",
     "        const gridElement = document.querySelector('.bx-grid[data-name=\"' + gridName + '\"]');",
     "        const eventTarget = gridElement || document;",
     "        const modifiedCells = new Map();",
     "        const deletedRows = new Set();",
     "        let newRows = [];",
     "",
     "        function forThisGrid(event) \x7b",
     "            const detail = event.detail || \x7b\x7d;",
     "            return !detail.gridName || detail.gridName === gridName;",
     "        \x7d",
     "",
     "        eventTarget.addEventListener('gridCellEdit', function(event) \x7b",
     "            if (forThisGrid(event)) \x7b",
     "                modifiedCells.set(event.detail.rowIndex + ':' + event.detail.column, event.detail);",
     "            \x7d",
     "        \x7d);",
     "        eventTarget.addEventListener('gridRowDelete', function(event) \x7b",
     "            if (forThisGrid(event)) \x7b",
     "                deletedRows.add(event.detail.rowIndex);",
     "            \x7d",
     "        \x7d);",
     "        eventTarget.addEventListener('gridRowAdd', function(event) \x7b",
     "            if (forThisGrid(event)) \x7b",
     "                newRows.push(event.detail.row || \x7b\x7d);",
     "            \x7d",
     "        \x7d);",
     "",
     "        function collectChanges() \x7b",
     "            return \x7b",
     "                modified: Array.from(modifiedCells.values()),",
     "                deleted: Array.from(deletedRows),",
     "                added: newRows.slice()",
     "            \x7d;",
     "        \x7d",
     "",
     "        function fire(name, detail) \x7b",
     "            (gridElement || updateForm).dispatchEvent(new CustomEvent(name, \x7b",
     "                detail: Object.assign(\x7b gridName: gridName \x7d, detail),",
     "                bubbles: true",
     "            \x7d));",
     "        \x7d",
     "",
     "        function succeed(result) \x7b",
     "            modifiedCells.clear();",
     "            deletedRows.clear();",
     "            newRows = [];",
     "            fire('gridUpdateSuccess', \x7b result: result \x7d);"] ++
    "            " ++ invoke onSuccess "result" ++ "\n" ++
    lines ["            return result;",
     "        \x7d",
     "",
     "        function fail(error) \x7b",
     "            fire('gridUpdateError', \x7b error: error.message \x7d);"] ++
    "            " ++ invoke onError "error.message, error" ++ "\n" ++
    lines ["        \x7d",
     ""] ++
    (match target with
     | .database dataSource tableName tableOwner tableQualifier username password keyOnly =>
       lines ["        function updateDatabase() \x7b",
        "            const payload = \x7b",
        "                gridName: gridName,"] ++
       "                dataSource: " ++ quoted dataSource ++ ",\n" ++
       "                tableName: " ++ quoted tableName ++ ",\n" ++
       "                tableOwner: " ++ quoted tableOwner ++ ",\n" ++
       "                tableQualifier: " ++ quoted tableQualifier ++ ",\n" ++
       "                keyOnly: " ++ boolLiteral keyOnly ++ ",\n" ++
       lines ["                changes: collectChanges()",
        "            \x7d;"] ++
       (if username.truthy then "            payload.username = " ++ quoted username ++ ";\n"
        else "") ++
       (if password.truthy then "            payload.password = " ++ quoted password ++ ";\n"
        else "") ++
       "            return fetch(" ++ quoted endpoint ++ ", \x7b\n" ++
       lines ["                method: 'POST',",
        "                headers: \x7b",
        "                    'Content-Type': 'application/json',",
        "                    'X-Requested-With': 'XMLHttpRequest'",
        "                \x7d,",
        "                body: JSON.stringify(payload)",
        "            \x7d).then(handleResponse).then(succeed).catch(fail);",
        "        \x7d",
        ""] ++
       "        window[" ++ quotedText ("updateGrid_" ++ gridName.text) ++ "] = function() \x7b\n" ++
       lines ["            return updateDatabase();",
        "        \x7d;"]
     | .url target method =>
       lines ["        function updateViaURL() \x7b",
        "            updateForm.querySelector('input[name=\"gridData\"]').value = JSON.stringify(collectChanges());",
        "            const formData = new FormData(updateForm);"] ++
       "            return fetch(" ++ quoted target ++ ", \x7b\n" ++
       "                method: " ++ quoted method ++ ",\n" ++
       lines ["                headers: \x7b 'X-Requested-With': 'XMLHttpRequest' \x7d,",
        "                body: formData",
        "            \x7d).then(handleResponse).then(succeed).catch(fail);",
        "        \x7d",
        ""] ++
       "        window[" ++ quotedText ("updateGrid_" ++ gridName.text) ++ "] = function() \x7b\n" ++
       lines ["            return updateViaURL();",
        "        \x7d;"]) ++
    lines ["    \x7d"])

end Script
end UiTags
