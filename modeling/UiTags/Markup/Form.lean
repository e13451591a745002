import UiTags.Markup.Html
import UiTags.Config

/-!
# Grid update form

A grid update saves a grid's edits either to the configured database endpoint, when both a data
source and a table name are given, or to a URL of its own. The form that carries the edits is
hidden, posts to the endpoint (with `POST`) or to the URL (with the update's method), and names
the grid it serves. Without an element id it takes `gridupdate_` followed by the grid's name.

The main statement is `UpdateMode.of?_eq_none_iff`: an update has no way to save exactly when
neither a data source with a table nor a URL is set.
-/

namespace UiTags

/-- How a grid update saves its edits. -/
inductive UpdateMode where
  | database
  | url
  deriving DecidableEq, Repr

namespace UpdateMode

/-- The way an update with these attributes saves: the database when both a data source and a
table name are set, else the URL when one is set. -/
def of? (attrs : Attrs) : Option UpdateMode :=
  if attrs.holds "dataSource" && attrs.holds "tableName" then some .database
  else if attrs.holds "url" then some .url
  else none

theorem of?_eq_none_iff (attrs : Attrs) :
    of? attrs = none ↔
      (attrs.holds "dataSource" && attrs.holds "tableName") = false ∧ attrs.holds "url" = false := by
  unfold of?
  split <;> rename_i h
  · simp [h]
  · split <;> rename_i h' <;> simp_all

end UpdateMode

/-- The hidden form of a grid update. -/
structure FormView where
  id : Value
  gridName : Value
  method : Value
  action : Value

namespace FormView

/-- The element id of an update: its own when truthy, else `gridupdate_` and the grid's name. -/
def formId (f : Frame) : Value :=
  if f.id.truthy then f.id else .str ("gridupdate_" ++ ((f.get? "grid").getD .null).text)

/-- The view of a closed grid update frame. -/
def ofFrame (c : Config) (f : Frame) : FormView :=
  let grid := (f.get? "grid").getD .null
  let (method, action) :=
    if UpdateMode.of? f.attrs == some .database then (Value.str "POST", c.gridUpdateEndpoint)
    else ((f.get? "method").getD (.str "POST"), (f.get? "url").getD .null)
  { id := formId f, gridName := grid, method, action }

/-- The markup of the form. -/
def render (v : FormView) : String :=
  "<form id=\"" ++ Html.text v.id ++ "\" class=\"bx-grid-update\" method=\"" ++
    Html.text v.method ++ "\" action=\"" ++ Html.text v.action ++ "\" data-grid=\"" ++
    Html.text v.gridName ++ "\" style=\"display: none\">\n" ++
  "    <input type=\"hidden\" name=\"gridName\" value=\"" ++ Html.text v.gridName ++ "\">\n" ++
  "    <input type=\"hidden\" name=\"gridData\" value=\"\">\n" ++
  "</form>\n"

end FormView
end UiTags
