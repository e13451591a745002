import UiTags.Markup.Html

/-!
# Layout markup

A layout arranges its areas by type. A tab layout shows a header button per area and a panel
per area, the first active. An accordion shows a panel per area with a header that expands or
collapses it. A border layout places each area in the region named by its position: top, then
left, center and right in a middle row, then bottom. Box layouts stack their areas.

An area's size becomes a width or height by the layout type: in a border layout the regions
other than the center take their size and its bounds along their axis (height for top and
bottom, width for left and right); a horizontal box takes widths and a vertical box heights.
-/

namespace UiTags

/-- A layout area as it is shown. -/
structure AreaView where
  id : Value
  title : String
  position : Option Value
  source : Option Value
  content : String
  collapsed : Bool
  style : String
  data : List (String × String)

/-- A layout as it is shown. -/
structure LayoutView where
  id : Value
  type : Value
  classes : String
  style : String
  data : List (String × String)
  areas : List AreaView

namespace LayoutView

/-- An area as shown in a layout of the given type. -/
def area (a : Area) (type : Value) : AreaView :=
  let truthy (name : String) : Option Value := (a.get? name).filter Value.truthy
  let border := type == .str "border"
  let position := a.position
  let size := truthy "size"
  let axisStyles :=
    if border then
      let axis := if position == some (.str "top") || position == some (.str "bottom") then "height"
        else "width"
      if position != some (.str "center") then
        (size.map fun s => s!"{axis}: {s.text}").toList ++
        ((truthy "minSize").map fun s => s!"min-{axis}: {s.text}").toList ++
        ((truthy "maxSize").map fun s => s!"max-{axis}: {s.text}").toList
      else []
    else if type == .str "hbox" || type == .str "vbox" then
      let axis := if type == .str "hbox" then "width" else "height"
      (size.map fun s => s!"{axis}: {s.text}").toList
    else []
  let decls := axisStyles ++
    ((truthy "align").map fun v => s!"text-align: {v.text}").toList ++
    ((truthy "overflow").map fun v => s!"overflow: {v.text}").toList ++
    [((a.get? "style").getD (.str "")).text]
  let titled := (a.title.filter Value.truthy)
  let data :=
    [("data-area-index", toString a.index)] ++
    (titled.map fun t => ("data-title", t.text)).toList ++
    ((truthy "source").map fun v => ("data-source", v.text)).toList ++
    (if type == .str "accordion" && !(((a.get? "collapsible").map Value.truthy).getD true) then
      [("data-collapsible", "false")] else []) ++
    (if border && position != some (.str "center") &&
        !(((a.get? "splitter").map Value.truthy).getD true) then
      [("data-splitter", "false")] else [])
  { id := a.id
    title := (titled.map Value.text).getD ""
    position
    source := a.get? "source"
    content := a.content
    collapsed := type == .str "accordion" && a.attrs.holds "initCollapsed"
    style := Html.styles decls
    data }

/-- The view of a closed layout frame. -/
def ofFrame (f : Frame) : LayoutView :=
  let type := (f.get? "type").getD .null
  let truthy (name : String) : Option Value := (f.get? name).filter Value.truthy
  let data := [("data-layout-type", type.text)] ++
    ((truthy "name").map fun v => ("data-name", v.text)).toList
  { id := f.id
    type
    classes := Html.classes [some "bx-layout", some s!"bx-layout-{type.text}",
      if f.holds "fillHeight" then some "bx-layout-fill-height" else none,
      if f.holds "fitToWindow" then some "bx-layout-fit-window" else none,
      (truthy "align").map fun v => s!"bx-layout-align-{v.text}",
      (f.get? "class").map Value.text]
    style := Html.styles (Html.sizeStyles f.attrs ++ ((f.get? "style").map Value.text).toList)
    data := Html.withPassthrough f.attrs data
    areas := f.areas.map fun a => area a type }

/-- The opening of an area's element with the given classes, without its closing `>`. -/
def areaOpen (a : AreaView) (classes : String) : String :=
  "<div id=\"" ++ Html.text a.id ++ "\" class=\"" ++ Html.escape classes ++ "\"" ++
  (if a.style.isEmpty then "" else " style=\"" ++ Html.escape a.style ++ "\"") ++
  Html.attrPairs a.data

/-- The title line of an area, when it has a title. -/
def titleLine (indent : String) (a : AreaView) : String :=
  if a.title.isEmpty then ""
  else indent ++ "<div class=\"bx-layout-area-title\">" ++ Html.escape a.title ++ "</div>\n"

/-- The body of an area. -/
def areaBody (a : AreaView) : String := Html.sourceBody a.source a.content

/-- The tab headers and panels. -/
def tabPart (areas : List AreaView) : String :=
  "    <div class=\"bx-tab-headers\" role=\"tablist\">\n" ++
  String.join ((areas.zipIdx).map fun p =>
    let (a, i) := p
    "        <button type=\"button\" class=\"bx-tab-header" ++ (if i == 0 then " active" else "") ++
    "\" data-tab-index=\"" ++ toString i ++ "\" role=\"tab\" aria-controls=\"" ++ Html.text a.id ++
    "\" aria-selected=\"" ++ (if i == 0 then "true" else "false") ++ "\">" ++
    Html.escape a.title ++ "</button>\n") ++
  "    </div>\n" ++
  "    <div class=\"bx-tab-panels\">\n" ++
  String.join ((areas.zipIdx).map fun p =>
    let (a, i) := p
    "        " ++ areaOpen a (if i == 0 then "bx-tab-panel active" else "bx-tab-panel") ++
    " role=\"tabpanel\">\n" ++ areaBody a ++ "\n" ++ "        </div>\n") ++
  "    </div>\n"

/-- The accordion panels. -/
def accordionPart (areas : List AreaView) : String :=
  String.join (areas.map fun a =>
    "    " ++ areaOpen a (if a.collapsed then "bx-accordion-panel collapsed" else "bx-accordion-panel") ++
    ">\n" ++
    "        <div class=\"bx-accordion-header\" role=\"button\" aria-expanded=\"" ++
    (if a.collapsed then "false" else "true") ++ "\">" ++ Html.escape a.title ++ "</div>\n" ++
    "        <div class=\"bx-accordion-content\">\n" ++
    areaBody a ++ "\n" ++
    "        </div>\n" ++
    "    </div>\n")

/-- One region of a border layout, followed by an empty line. -/
def region (a : AreaView) : String :=
  "        " ++ areaOpen a ("bx-border-region bx-border-" ++ ((a.position.map Value.text).getD "None")) ++
  ">\n" ++ titleLine "            " a ++ areaBody a ++ "\n" ++ "        </div>\n" ++ "\n"

/-- The area at a border position: the last one registered there. -/
def at? (areas : List AreaView) (position : String) : Option AreaView :=
  (areas.filter fun a => a.position == some (.str position)).getLast?

/-- The regions of a border layout. -/
def borderPart (areas : List AreaView) : String :=
  let one (p : String) : String := ((at? areas p).map region).getD ""
  one "top" ++
  "    <div class=\"bx-border-middle\">\n" ++
  one "left" ++ one "center" ++ one "right" ++
  "    </div>\n" ++
  one "bottom"

/-- The items of a box layout. -/
def boxPart (areas : List AreaView) : String :=
  String.join (areas.map fun a =>
    "    " ++ areaOpen a "bx-box-item" ++ ">\n" ++ titleLine "        " a ++
    areaBody a ++ "\n" ++ "    </div>\n")

/-- The markup of a layout. -/
def render (l : LayoutView) : String :=
  "<div id=\"" ++ Html.text l.id ++ "\" class=\"" ++ Html.escape l.classes ++ "\"" ++
    (if l.style.isEmpty then "" else " style=\"" ++ Html.escape l.style ++ "\"") ++
    Html.attrPairs l.data ++ ">\n" ++
  (if l.type == .str "tab" then tabPart l.areas
   else if l.type == .str "accordion" then accordionPart l.areas
   else if l.type == .str "border" then borderPart l.areas
   else boxPart l.areas) ++
  "</div>\n"

end LayoutView
end UiTags
