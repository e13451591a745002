import UiTags.Markup.Html
import UiTags.Page

/-!
# Grid markup

A grid is a table of rows under column headers, with an optional selection column, inside a
`div` that carries the grid's settings as `data-*` attributes, followed by page links when the
grid is paged.

The rows come from the grid's query or, without a query, from its literal row tags. Columns come
from the column tags; without any, from the keys of the first row. A cell shows the row's value
for its column, looked up by exact name first and then ignoring letter case: null and a missing
value show as nothing, truth values as `true` or `false`, everything else as its text, which the
column's value-to-label map may replace. A grid is paged when it has a page size and rows (a
query, possibly empty, or at least one literal row); a paged grid shows only the page's rows.
-/

namespace UiTags

/-- A grid column as it is shown. -/
structure ColumnView where
  name : String
  header : String
  headerData : List (String × String)
  type : Value
  sortable : Bool
  readonly : Bool
  headerClasses : String
  headerStyle : String
  cellStyle : String
  labels : List (String × String)
  href : Option Value
  hrefKey : Option Value
  target : Option Value

/-- A grid cell as it is shown. -/
structure CellView where
  column : String
  type : Value
  text : String
  style : String
  readonly : Bool
  href : Option String
  target : Option Value

/-- A grid row as it is shown. -/
structure RowView where
  index : Nat
  cells : List CellView

/-- A grid as it is shown. -/
structure GridView where
  id : Value
  name : Value
  classes : String
  style : String
  data : List (String × String)
  selectMode : Value
  showHeaders : Bool
  hasQuery : Bool
  colspan : Nat
  columns : List ColumnView
  rows : List RowView
  page : Option Page

namespace GridView

/-- Colours and font of the grid body, by attribute. -/
def bodyStyleMap : List (String × String) :=
  [("bgColor", "background-color"), ("textColor", "color"), ("font", "font-family"),
   ("fontSize", "font-size")]

/-- Emphasis of the grid body, by flag attribute. -/
def bodyFlagMap : List (String × String) :=
  [("bold", "font-weight: bold"), ("italic", "font-style: italic")]

/-- Colours and font of the column headers, by attribute. -/
def headerStyleMap : List (String × String) :=
  [("headerBgColor", "background-color"), ("headerTextColor", "color"),
   ("headerFont", "font-family"), ("headerFontSize", "font-size")]

/-- Emphasis of the column headers, by flag attribute. -/
def headerFlagMap : List (String × String) :=
  [("headerBold", "font-weight: bold"), ("headerItalic", "font-style: italic")]

/-- A row's value for a column name: by exact name, else the first key equal to it once both
are lowered. -/
def lookupCell (row : List (String × Value)) (key : String) : Option Value :=
  match row.lookup key with
  | some v => some v
  | none =>
    let low := Text.lower key
    (row.find? fun p => Text.lower p.1 == low).map (·.2)

/-- The text of a cell value. -/
def cellText : Option Value → String
  | none => ""
  | some .null => ""
  | some (.bool b) => Html.boolText b
  | some v => v.text

/-- The comma-separated trimmed pieces of a column attribute, none when it is not truthy. -/
def pieces (v : Option Value) : List String :=
  match v with
  | some x => if x.truthy then (Text.splitAt ',' x.text).map Text.strip else []
  | none => []

/-- A column as shown, in a grid whose sortable and editable settings are given, with the
header declarations of the grid appended to its own. -/
def column (c : Column) (sortable editable : Bool) (headerDecls : List String) : ColumnView :=
  let truthy (name : String) : Option Value := (c.get? name).filter Value.truthy
  let colSortable := ((c.get? "sortable").map Value.truthy).getD sortable
  let colEditable := ((c.get? "editable").map Value.truthy).getD editable
  let hidden := !(((c.get? "display").map Value.truthy).getD true)
  let headerBase :=
    ((truthy "width").map fun w => s!"width: {w.text}").toList ++
    ((truthy "headerAlign").map fun a => s!"text-align: {a.text}").toList ++
    (if hidden then ["display: none"] else [])
  let cellDecls :=
    ((truthy "dataAlign").map fun a => s!"text-align: {a.text}").toList ++
    (if hidden then ["display: none"] else [])
  let type := (c.get? "type").getD (.str "string")
  let headerData :=
    [("data-type", type.text)] ++
    (if colSortable then [] else [("data-sortable", "false")]) ++
    ((truthy "numberFormat").map fun v => ("data-number-format", v.text)).toList ++
    ((truthy "dateFormat").map fun v => ("data-date-format", v.text)).toList
  { name := c.name
    header := c.header
    headerData
    type
    sortable := colSortable
    readonly := editable && !colEditable
    headerClasses := Html.classes [some "bx-grid-column-header",
      if colSortable then some "bx-grid-sortable-column" else none,
      if hidden then some "bx-grid-hidden" else none]
    headerStyle := Html.styles (headerBase ++ headerDecls)
    cellStyle := Html.styles cellDecls
    labels := (pieces (c.get? "values")).zip (pieces (c.get? "valuesDisplay"))
    href := c.get? "href"
    hrefKey := c.get? "hrefKey"
    target := c.get? "target" }

/-- The link of a cell: the column's link, followed by `?` (or `&` when it has a `?` already)
and `key=value` for the column's link key and the row's value under it. -/
def cellHref (col : ColumnView) (row : List (String × Value)) : Option String :=
  match col.href with
  | none => none
  | some href =>
    if !href.truthy then none
    else
      match col.hrefKey with
      | some key =>
        if key.truthy then
          let sep := if href.text.toList.contains '?' then "&" else "?"
          some (href.text ++ sep ++ key.text ++ "=" ++ cellText (lookupCell row key.text))
        else some href.text
      | none => some href.text

/-- A row as shown under the given columns. -/
def row (index : Nat) (data : List (String × Value)) (cols : List ColumnView) : RowView :=
  { index
    cells := cols.map fun col =>
      let text := cellText (lookupCell data col.name)
      { column := col.name
        type := col.type
        text := (col.labels.reverse.lookup text).getD text
        style := col.cellStyle
        readonly := col.readonly
        href := cellHref col data
        target := col.target } }

/-- The query rows of a grid frame: its `query` attribute as a list of mappings. -/
def queryRows (f : Frame) : Option (List (List (String × Value))) :=
  match f.get? "query" with
  | some (.list items) => some (items.filterMap fun v => match v with
      | .obj fields => some fields
      | _ => none)
  | _ => none

/-- A value read as an integer, truth values counting as one and zero. -/
def asInt? : Value → Option Int
  | .int n => some n
  | .bool b => some (if b then 1 else 0)
  | _ => none

/-- The page a grid frame shows, when it is paged. -/
def pageOf (f : Frame) : Option Page :=
  let query := queryRows f
  let total := match query with
    | some q => q.length
    | none => f.rows.length
  match (f.get? "pageSize").filter Value.truthy with
  | none => none
  | some size =>
    if query.isNone && f.rows.isEmpty then none
    else
      match asInt? size, asInt? ((f.get? "page").getD (.int 1)) with
      | some s, some p => (Page.make total p s).toOption
      | _, _ => none

/-- The view of a closed grid frame. -/
def ofFrame (f : Frame) : GridView :=
  let sortable := f.holds "sortable"
  let editable := f.holds "editable"
  let selectMode := (f.get? "selectMode").getD (.str "none")
  let selectable := selectMode != .str "none"
  let query := queryRows f
  let page := pageOf f
  let headerDecls := Html.mappedStyles f.attrs headerStyleMap headerFlagMap
  let declared := f.columns.map fun c => column c sortable editable headerDecls
  let sample : List (String × Value) := match query with
    | some (first :: _) => first
    | _ => match f.rows with
      | r :: _ => r.data
      | [] => []
  let cols := if declared.isEmpty && !sample.isEmpty then
      sample.map fun p => column { name := p.1, header := p.1, index := 0 } sortable editable
        headerDecls
    else declared
  let rows := match query with
    | some q =>
      let offset := match page with
        | some pg => pg.startRow - 1
        | none => 0
      let shown := match page with
        | some pg => pg.window q
        | none => q
      (shown.zipIdx offset).map fun p => row p.2 p.1 cols
    | none =>
      let shown := match page with
        | some pg => pg.window f.rows
        | none => f.rows
      shown.map fun r => row r.index r.data cols
  let truthy (name : String) : Option Value := (f.get? name).filter Value.truthy
  let data :=
    [("data-name", ((f.get? "name").getD (.str "")).text),
     ("data-sortable", Html.boolText sortable), ("data-editable", Html.boolText editable),
     ("data-select-mode", selectMode.text)] ++
    ((truthy "pageSize").map fun v => ("data-page-size", v.text)).toList ++
    (match page with
     | some pg => [("data-page", toString pg.page), ("data-total-pages", toString pg.totalPages),
         ("data-total-rows", toString pg.total)]
     | none => []) ++
    ((truthy "source").map fun v => ("data-source", v.text)).toList
  { id := f.id
    name := (f.get? "name").getD (.str "")
    classes := Html.classes [some "bx-grid",
      if sortable then some "bx-grid-sortable" else none,
      if editable then some "bx-grid-editable" else none,
      if ((f.get? "stripeRows").map Value.truthy).getD true then some "bx-grid-striped" else none,
      if selectable then some "bx-grid-selectable" else none,
      (f.get? "class").map Value.text]
    style := Html.styles (Html.sizeStyles f.attrs ++
      Html.mappedStyles f.attrs bodyStyleMap bodyFlagMap ++ ((f.get? "style").map Value.text).toList)
    data := Html.withPassthrough f.attrs data
    selectMode
    showHeaders := ((f.get? "showHeaders").map Value.truthy).getD true
    hasQuery := query.isSome
    colspan := cols.length + (if selectable then 1 else 0)
    columns := cols
    rows
    page }

/-- A `style` attribute, or nothing for an empty style. -/
def styleAttr (s : String) : String :=
  if s.isEmpty then "" else " style=\"" ++ Html.escape s ++ "\""

/-- The header cell of a column. -/
def headerCell (c : ColumnView) : String :=
  "                <th class=\"" ++ Html.escape c.headerClasses ++ "\" data-column=\"" ++
  Html.escape c.name ++ "\"" ++ Html.attrPairs c.headerData ++ styleAttr c.headerStyle ++ ">" ++
  Html.escape c.header ++
  (if c.sortable then "<span class=\"bx-grid-sort-indicator\"></span>" else "") ++ "</th>\n"

/-- The header row. -/
def headerPart (g : GridView) : String :=
  "        <thead class=\"bx-grid-header\">\n" ++
  "            <tr>\n" ++
  (if g.selectMode != .str "none" then
    "                <th class=\"bx-grid-select-header\">" ++
    (if g.selectMode == .str "multi" then
      "<input type=\"checkbox\" class=\"bx-grid-select-all\" aria-label=\"Select all rows\">"
     else "") ++ "</th>\n"
   else "") ++
  String.join (g.columns.map headerCell) ++
  "            </tr>\n" ++
  "        </thead>\n"

/-- The content of a cell: an image for a non-empty image cell, a link for a linked cell, or
the text. -/
def cellContent (c : CellView) : String :=
  if c.type == .str "image" && !c.text.isEmpty then
    "<img src=\"" ++ Html.escape c.text ++ "\" alt=\"\">"
  else
    match c.href with
    | some h =>
      if h.isEmpty then Html.escape c.text
      else
        "<a href=\"" ++ Html.escape h ++ "\"" ++
        (match c.target with
         | some t => if t.truthy then " target=\"" ++ Html.text t ++ "\"" else ""
         | none => "") ++ ">" ++ Html.escape c.text ++ "</a>"
    | none => Html.escape c.text

/-- The body cell of a row for one column. -/
def bodyCell (c : CellView) : String :=
  "                <td class=\"bx-grid-cell\" data-column=\"" ++ Html.escape c.column ++ "\"" ++
  (if c.readonly then " data-editable=\"false\"" else "") ++ styleAttr c.style ++ ">" ++
  cellContent c ++ "</td>\n"

/-- One body row. -/
def rowPart (g : GridView) (r : RowView) : String :=
  "            <tr class=\"bx-grid-row\" data-row-index=\"" ++ toString r.index ++ "\">\n" ++
  (if g.selectMode == .str "multi" then
    "                <td class=\"bx-grid-select-cell\"><input type=\"checkbox\" class=\"bx-grid-select\" value=\"" ++
    toString r.index ++ "\" aria-label=\"Select row\"></td>\n"
   else if g.selectMode == .str "single" then
    "                <td class=\"bx-grid-select-cell\"><input type=\"radio\" class=\"bx-grid-select\" name=\"" ++
    Html.text g.name ++ "_select\" value=\"" ++ toString r.index ++ "\" aria-label=\"Select row\"></td>\n"
   else "") ++
  String.join (r.cells.map bodyCell) ++
  "            </tr>\n"

/-- The page links of a paged grid. -/
def pagePart (pg : Page) : String :=
  "    <div class=\"bx-grid-pagination\" data-page=\"" ++ toString pg.page ++
    "\" data-total-pages=\"" ++ toString pg.totalPages ++ "\">\n" ++
  "        <span class=\"bx-grid-page-info\">" ++ Html.escape pg.info ++ "</span>\n" ++
  "        <button type=\"button\" class=\"bx-grid-page-btn bx-grid-page-prev\" data-page=\"" ++
    toString ((pg.page : Int) - 1) ++ "\"" ++ (if pg.hasPrevious then "" else " disabled") ++
    ">Previous</button>\n" ++
  String.join (pg.links.map fun n =>
    "        <button type=\"button\" class=\"bx-grid-page-btn" ++
    (if n == pg.page then " bx-grid-page-current" else "") ++ "\" data-page=\"" ++ toString n ++
    "\">" ++ toString n ++ "</button>\n") ++
  "        <button type=\"button\" class=\"bx-grid-page-btn bx-grid-page-next\" data-page=\"" ++
    toString (pg.page + 1) ++ "\"" ++ (if pg.hasNext then "" else " disabled") ++
    ">Next</button>\n" ++
  "    </div>\n"

/-- The markup of a grid. -/
def render (g : GridView) : String :=
  "<div id=\"" ++ Html.text g.id ++ "\" class=\"" ++ Html.escape g.classes ++ "\"" ++
    styleAttr g.style ++ Html.attrPairs g.data ++ ">\n" ++
  "    <table class=\"bx-grid-table\">\n" ++
  (if g.showHeaders then headerPart g else "") ++
  "        <tbody class=\"bx-grid-body\">\n" ++
  (if g.rows.isEmpty then
    (if g.hasQuery then
      "            <tr class=\"bx-grid-empty-row\"><td class=\"bx-grid-empty\" colspan=\"" ++
      toString g.colspan ++ "\">No data available</td></tr>\n"
     else "")
   else String.join (g.rows.map (rowPart g))) ++
  "        </tbody>\n" ++
  "    </table>\n" ++
  (match g.page with
   | some pg => pagePart pg
   | none => "") ++
  "</div>\n"

end GridView
end UiTags
