import UiTags.Template.Render
import UiTags.Template.Packaged
import UiTags.Markup.Grid
import UiTags.Markup.Layout
import UiTags.Markup.Pod
import UiTags.Markup.Form
import UiTags.Markup.Assets
import UiTags.Script.Params
import UiTags.Bind

/-!
# Fragments and their templates

Every piece of markup or script that a closed tag gives is a fragment: a template named for it,
and the names that template is given. Markup templates get one dictionary describing the
element (`pod`, `div`, `grid` with its `columns`, `rows` and paging, `layout` with its `areas`
and border `regions`, `form`) or the asset lists of an import; script templates get the
element's id and each setting as a name of its own.

The values are those the markup and script modules compute, so a packaged template renders
the same text as those modules; a replacing template sees the same names.
-/

namespace UiTags
namespace Fragment

open Template

/-- A dictionary with text keys. -/
def obj (fields : List (String × Datum)) : Datum :=
  .dict (fields.map fun (k, v) => (.str k, v))

/-- A value from data. -/
def val (v : Value) : Datum := Datum.ofValue v

/-- A value from data that may be absent: none when it is. -/
def opt (v : Option Value) : Datum := (v.map Datum.ofValue).getD .none

/-- Attribute pairs as a list of two-item tuples. -/
def pairs (ps : List (String × String)) : Datum :=
  .list (ps.map fun (k, v) => .tuple [.str k, .str v])

/-! ## Markup -/

/-- The names the pod template is given. -/
def pod (p : PodView) : Names :=
  [("pod", obj [("id", val p.id), ("title", opt p.title), ("classes", .str p.classes),
    ("style", .str p.style), ("header_style", .str p.headerStyle),
    ("body_style", .str p.bodyStyle), ("source", opt p.source), ("content", .safe p.content),
    ("data", pairs p.data)])]

/-- The names the div template is given. -/
def div (d : DivView) : Names :=
  [("div", obj [("id", val d.id), ("tag_name", val d.tagName), ("classes", .str d.classes),
    ("style", .str d.style), ("loading", .bool d.loading), ("content", .safe d.content),
    ("data", pairs d.data)])]

/-- A page of rows as an object with its figures and its three properties. -/
def page (pg : Page) : Datum :=
  .record "PaginationResult"
    [("total_row_count", .int pg.total), ("page", .int pg.page), ("page_size", .int pg.size),
     ("total_pages", .int pg.totalPages), ("start_row", .int pg.startRow),
     ("end_row", .int pg.endRow)]
    [("is_empty", .bool pg.isEmpty), ("has_previous", .bool pg.hasPrevious),
     ("has_next", .bool pg.hasNext)]

/-- A grid column as the grid template sees it. -/
def column (c : ColumnView) : Datum :=
  obj [("name", .str c.name), ("header", .str c.header), ("header_data", pairs c.headerData),
    ("type", val c.type), ("sortable", .bool c.sortable), ("readonly", .bool c.readonly),
    ("header_classes", .str c.headerClasses), ("cell_style", .str c.cellStyle),
    ("display_map", obj (c.labels.map fun (k, v) => (k, .str v))), ("href", opt c.href),
    ("href_key", opt c.hrefKey), ("target", opt c.target), ("header_style", .str c.headerStyle)]

/-- A grid cell as the grid template sees it. -/
def cell (c : CellView) : Datum :=
  obj [("column", .str c.column), ("type", val c.type), ("text", .str c.text),
    ("style", .str c.style), ("readonly", .bool c.readonly),
    ("href", (c.href.map Datum.str).getD .none), ("target", opt c.target)]

/-- The names the grid template is given. -/
def grid (g : GridView) : Names :=
  [("grid", obj [("id", val g.id), ("name", val g.name), ("classes", .str g.classes),
     ("style", .str g.style), ("data", pairs g.data), ("select_mode", val g.selectMode),
     ("show_headers", .bool g.showHeaders), ("has_query", .bool g.hasQuery),
     ("colspan", .int g.colspan)]),
   ("columns", .list (g.columns.map column)),
   ("rows", .list (g.rows.map fun r => obj [("index", .int r.index), ("cells", .list (r.cells.map cell))])),
   ("pagination", (g.page.map page).getD .none),
   ("page_numbers", .list (((g.page.map Page.links).getD []).map fun (n : Nat) => .int n)),
   ("page_info", .str ((g.page.map Page.info).getD ""))]

/-- A layout area as the layout template sees it. -/
def area (a : AreaView) : Datum :=
  obj [("id", val a.id), ("title", .str a.title), ("position", opt a.position),
    ("source", opt a.source), ("content", .safe a.content), ("collapsed", .bool a.collapsed),
    ("style", .str a.style), ("data", pairs a.data)]

/-- The border regions of a layout: each position with the last area placed there, or none. -/
def regions (l : LayoutView) : Except Error Datum := do
  let empty : List (Datum × Datum) :=
    ["top", "bottom", "left", "right", "center"].map fun p => (.str p, .none)
  if l.type != .str "border" then return .dict empty
  let placed ← l.areas.foldlM (fun acc a => Datum.insert acc (opt a.position) (area a)) empty
  return .dict placed

/-- The names the layout template is given. -/
def layout (l : LayoutView) : Except Error Names := do
  return [("layout", obj [("id", val l.id), ("type", val l.type), ("classes", .str l.classes),
      ("style", .str l.style), ("data", pairs l.data)]),
    ("areas", .list (l.areas.map area)),
    ("regions", ← regions l)]

/-- The names the grid update template is given. -/
def form (f : FormView) : Names :=
  [("form", obj [("id", val f.id), ("grid_name", val f.gridName), ("method", val f.method),
    ("action", val f.action)])]

/-- The names the asset import template is given. -/
def assets (p : Assets.Plan) : Names :=
  [("stylesheets", .list ((Assets.stylesheets p).map .str)),
   ("scripts", .list ((Assets.scripts p).map .str))]

/-- The markup template of a closed frame and the names it is given, for the tags that have
markup. -/
def markup? (c : Config) (f : Frame) : Option (String × Except Failure Names) :=
  match f.tag with
  | "grid" => some ("grid.html", .ok (grid (GridView.ofFrame f)))
  | "layout" => some ("layout.html", (layout (LayoutView.ofFrame f)).mapError Failure.template)
  | "pod" => some ("pod.html", .ok (pod (PodView.ofFrame f)))
  | "div" => some ("div.html", .ok (div (DivView.ofFrame f)))
  | "gridupdate" => some ("grid_update.html", .ok (form (FormView.ofFrame c f)))
  | "ajaximport" => some ("ajax_import.html", assets <$> Assets.plan c f)
  | _ => Option.none

/-! ## Scripts -/

/-- A bind expression as the object the script templates see. -/
def bindObject : Bind → Datum
  | .call path method params =>
    .record "CfcCall" [("kind", .str "cfc"), ("component_path", .str path),
      ("method_name", .str method), ("params", .tuple (params.map .str))] []
  | .url target => .record "UrlBind" [("kind", .str "url"), ("url", .str target)] []
  | .generic raw => .record "Generic" [("kind", .str "generic"), ("raw", .str raw)] []

/-- A frame attribute, none for an absent one. -/
def attr (f : Frame) (name : String) : Datum := opt (f.get? name)

/-- A frame attribute with a default for an absent one. -/
def attrOr (f : Frame) (name : String) (default : Value) : Datum := val ((f.get? name).getD default)

/-- The name of an update mode, none when there is none. -/
def modeName : Option UpdateMode → Datum
  | some .database => .str "database"
  | some .url => .str "url"
  | Option.none => .none

/-- The script template of a closed frame and the names it is given, for the frames that
give a script. -/
def script? (c : Config) (f : Frame) (wired : Bool) (proxyClass : Value) :
    Option (String × Except Failure Names) :=
  match f.tag with
  | "grid" =>
    some ("scripts/grid.js",
      .ok [("grid_id", val f.id), ("grid_name", attrOr f "name" (.str "")),
       ("on_load", attr f "onLoad"), ("on_edit", attr f "onEdit"), ("on_sort", attr f "onSort"),
       ("on_change", attr f "onChange")])
  | "gridupdate" =>
    some ("scripts/grid_update.js",
      .ok [("grid_name", attr f "grid"), ("form_id", val (FormView.formId f)),
       ("mode", modeName (UpdateMode.of? f.attrs)), ("endpoint", val c.gridUpdateEndpoint),
       ("url", attr f "url"), ("method", attrOr f "method" (.str "POST")),
       ("data_source", attr f "dataSource"), ("table_name", attr f "tableName"),
       ("table_owner", attr f "tableOwner"), ("table_qualifier", attr f "tableQualifier"),
       ("username", attr f "username"), ("password", attr f "password"),
       ("key_only", attrOr f "keyOnly" (.bool false)), ("on_success", attr f "onSuccess"),
       ("on_error", attr f "onError")])
  | "layout" =>
    if wired then some ("scripts/layout.js", .ok [("layout_id", val f.id), ("layout_type", attr f "type")])
    else Option.none
  | "pod" =>
    if f.holds "source" then
      some ("scripts/pod.js", .ok [("pod_id", val f.id), ("on_bind_error", attr f "onBindError")])
    else Option.none
  | "div" =>
    let expr := (f.get? "bind").getD .null
    if expr.truthy then
      some ("scripts/div.js",
        .ok [("div_id", val f.id), ("bind", bindObject (Bind.parse expr.text)), ("bind_raw", val expr),
         ("bind_on_load", attrOr f "bindOnLoad" (.bool true)),
         ("remote_endpoint", val c.remoteEndpoint), ("on_bind_error", attr f "onBindError")])
    else Option.none
  | "ajaxproxy" =>
    let expr := (f.get? "bind").getD .null
    some ("scripts/ajax_proxy.js",
      .ok [("cfc", attr f "cfc"), ("class_name", val proxyClass),
       ("bind", if expr.truthy then bindObject (Bind.parse expr.text) else .none),
       ("bind_raw", attr f "bind"), ("remote_endpoint", val c.remoteEndpoint),
       ("on_success", attr f "onSuccess"), ("on_error", attr f "onError")])
  | "ajaximport" =>
    let raw := ((f.get? "params").filter Value.truthy).map Value.text |>.getD ""
    some ("scripts/ajax_import.js", do
      let css ← Assets.cssBase c f
      let script ← Assets.scriptBase c f
      pure [("version", val c.version), ("css_src", .str css), ("script_src", .str script),
        ("remote_endpoint", val c.remoteEndpoint), ("params", pairs (Script.parseParams raw))])
  | _ => Option.none

/-! ## Replaced templates -/

/-- Whether rendering a packaged template reaches a replaced template: the template itself or
one it loads. -/
def replaced (given : List (String × String)) (name : String) : Bool :=
  (name :: packagedUses name).any fun n => given.any (·.1 == n)

/-- The library of a template directory's templates, before the packaged ones. -/
def library (given : List (String × String)) : Library :=
  { sources := given ++ packaged }

end Fragment
end UiTags
