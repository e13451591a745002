import UiTags.Attribute.Set

/-!
# The tag table

Ten tags, each with a display name, an element id prefix (for the tags that get an id when none
is given), the kind of frame it opens and its attribute declarations in order.

A tag name is looked up after lowering it, dropping one leading `bx:` and removing every `-`, so
`bx:Grid-Column` names the column tag.
-/

namespace UiTags

/-- What children a frame accepts: grid frames take columns and rows, layout frames take
areas, other frames none. -/
inductive FrameKind where
  | grid
  | layout
  | plain
  deriving DecidableEq, Repr, Inhabited

/-- The name of a frame kind in answers. -/
def FrameKind.name : FrameKind → String
  | .grid => "grid"
  | .layout => "layout"
  | .plain => "none"

/-- The static description of a tag. -/
structure TagDef where
  name : String
  display : String
  idPrefix : Option String := none
  frame : FrameKind := .plain
  attrs : List AttrSpec
  deriving Inhabited

namespace TagDef

/-- A text attribute. -/
def text (name : String) (required : Bool := false) (default : Value := .null) : AttrSpec :=
  { name, required, default }

/-- A text attribute restricted to some texts. -/
def oneOf (name : String) (allowed : List String) (required : Bool := false) (default : Value := .null) :
    AttrSpec :=
  { name, required, allowed := some allowed, default }

/-- A truth-value attribute. -/
def flag (name : String) (default : Value := .bool false) : AttrSpec :=
  { name, kind := .boolean, default }

/-- An integer attribute. -/
def number (name : String) (default : Value := .null) : AttrSpec :=
  { name, kind := .integer, default }

/-- A script name attribute. -/
def callback (name : String) : AttrSpec :=
  { name, kind := .identifier }

/-- An attribute kept as given. -/
def raw (name : String) (required : Bool := false) : AttrSpec :=
  { name, required, kind := .any }

/-- The horizontal alignments. -/
def alignments : List String := ["left", "center", "right"]

/-- The five regions of a border layout. -/
def borderPositions : List String := ["top", "bottom", "left", "right", "center"]

/-- The column types of a grid. -/
def columnTypes : List String := ["string", "numeric", "date", "boolean", "currency", "image"]

/-- The element names a div may render as. -/
def divTagNames : List String :=
  ["div", "span", "p", "section", "article", "aside", "header", "footer", "main", "nav"]

/-- The alignments of a layout. -/
def layoutAlignments : List String := ["left", "center", "right", "top", "bottom"]

/-- The layout types. -/
def layoutTypes : List String := ["border", "accordion", "tab", "hbox", "vbox"]

/-- The overflow behaviours. -/
def overflows : List String := ["auto", "hidden", "scroll", "visible"]

/-- The selection modes of a grid. -/
def selectModes : List String := ["none", "single", "multi"]

/-- The request methods of a grid update. -/
def updateMethods : List String := ["POST", "PUT", "PATCH"]

/-- Id, classes, inline style and size. -/
def presentation : List AttrSpec :=
  [text "id", text "class", text "style", text "height", text "width"]

/-- Colours, font and emphasis. -/
def fontAttrs : List AttrSpec :=
  [text "bgColor", text "textColor", text "font", text "fontSize", flag "bold", flag "italic"]

/-- The grid. -/
def grid : TagDef where
  name := "grid"
  display := "Grid"
  idPrefix := some "grid"
  frame := .grid
  attrs := [text "name" true] ++ presentation ++ fontAttrs ++
    [text "headerBgColor", text "headerTextColor", text "headerFont", text "headerFontSize",
     flag "headerBold", flag "headerItalic",
     oneOf "selectMode" selectModes false (.str "none"),
     flag "multirowselect", flag "sortable", flag "editable",
     flag "showHeaders" (.bool true), flag "stripeRows" (.bool true),
     number "pageSize", number "page" (.int 1),
     raw "query", text "source",
     callback "onLoad", callback "onEdit", callback "onSort", callback "onChange"]

/-- A grid column. -/
def gridColumn : TagDef where
  name := "gridcolumn"
  display := "GridColumn"
  attrs :=
    [text "name" true, text "header", text "width",
     oneOf "dataAlign" alignments, oneOf "headerAlign" alignments,
     oneOf "type" columnTypes false (.str "string"),
     flag "display" (.bool true), flag "sortable" .null, flag "editable" .null,
     text "values", text "valuesDisplay", text "href", text "hrefKey", text "target",
     text "numberFormat", text "dateFormat"]

/-- A literal grid row. -/
def gridRow : TagDef where
  name := "gridrow"
  display := "GridRow"
  attrs := [raw "data" true]

/-- A grid update form. -/
def gridUpdate : TagDef where
  name := "gridupdate"
  display := "GridUpdate"
  attrs :=
    [text "grid" true, text "dataSource", text "tableName", text "tableOwner",
     text "tableQualifier", text "username", text "password", flag "keyOnly", text "url",
     oneOf "method" updateMethods false (.str "POST"),
     callback "onSuccess", callback "onError"]

/-- A layout. -/
def layout : TagDef where
  name := "layout"
  display := "Layout"
  idPrefix := some "layout"
  frame := .layout
  attrs := [oneOf "type" layoutTypes true] ++ presentation ++
    [oneOf "align" layoutAlignments, flag "fillHeight", flag "fitToWindow", text "name"]

/-- A layout area. -/
def layoutArea : TagDef where
  name := "layoutarea"
  display := "LayoutArea"
  idPrefix := some "layoutarea"
  attrs :=
    [text "id", text "title", text "position", text "size", text "minSize", text "maxSize",
     flag "splitter" (.bool true), flag "collapsible" (.bool true), flag "initCollapsed",
     text "source", oneOf "align" alignments, oneOf "overflow" overflows, text "style"]

/-- A pod. -/
def pod : TagDef where
  name := "pod"
  display := "Pod"
  idPrefix := some "pod"
  attrs := presentation ++
    [text "name", text "title", oneOf "overflow" overflows, text "bodyStyle",
     text "headerStyle", text "source", callback "onBindError"]

/-- A div. -/
def div : TagDef where
  name := "div"
  display := "Div"
  idPrefix := some "div"
  attrs := presentation ++
    [oneOf "tagName" divTagNames false (.str "div"), text "bind",
     flag "bindOnLoad" (.bool true), callback "onBindError"]

/-- A remote component proxy. -/
def ajaxProxy : TagDef where
  name := "ajaxproxy"
  display := "AjaxProxy"
  attrs := [text "cfc", callback "jsClassName", text "bind", callback "onSuccess",
    callback "onError"]

/-- An asset import. -/
def ajaxImport : TagDef where
  name := "ajaximport"
  display := "AjaxImport"
  attrs := [text "tags", text "cssSrc", text "scriptSrc", text "params"]

/-- All tags. -/
def all : List TagDef :=
  [grid, gridColumn, gridRow, gridUpdate, layout, layoutArea, pod, div, ajaxProxy, ajaxImport]

/-- The name a tag is looked up by: lowered, one leading `bx:` dropped, every `-` removed. -/
def canonicalName (tag : String) : String :=
  let low := (Text.lower tag).toList
  let body := if low.take 3 == ['b', 'x', ':'] then low.drop 3 else low
  String.ofList (body.filter (· != '-'))

/-- The definition of a tag name. -/
def lookup (tag : String) : Option TagDef :=
  let key := canonicalName tag
  all.find? (·.name == key)

end TagDef
end UiTags
