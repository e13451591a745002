import UiTags.Markup.Html

/-!
# Pod and div markup

A pod is a titled box: an optional header with the title, and a body holding the captured
content, or a note of the source it loads from. A div is a plain element (`div` or another
allowed element name) holding the captured content, or a loading placeholder when it loads its
content from a bind expression on page load.

Each is built as a view from the closed frame and then written.
-/

namespace UiTags

/-- What a pod shows. -/
structure PodView where
  id : Value
  title : Option Value
  classes : String
  style : String
  headerStyle : String
  bodyStyle : String
  source : Option Value
  content : String
  data : List (String × String)

/-- What a div shows. -/
structure DivView where
  id : Value
  tagName : Value
  classes : String
  style : String
  loading : Bool
  content : String
  data : List (String × String)

namespace PodView

/-- The view of a closed pod frame. -/
def ofFrame (f : Frame) : PodView :=
  let truthy (name : String) : Option Value := (f.get? name).filter Value.truthy
  let data := (match truthy "name" with | some v => [("data-name", v.text)] | none => []) ++
    (match truthy "source" with | some v => [("data-source", v.text)] | none => [])
  let overflow := (truthy "overflow").map fun v => s!"overflow: {v.text}"
  { id := f.id
    title := f.get? "title"
    classes := Html.classes [some "bx-pod", (f.get? "class").map Value.text]
    style := Html.styles (Html.sizeStyles f.attrs ++ ((f.get? "style").map Value.text).toList)
    headerStyle := Html.styles ((f.get? "headerStyle").map Value.text).toList
    bodyStyle := Html.styles (overflow.toList ++ ((f.get? "bodyStyle").map Value.text).toList)
    source := f.get? "source"
    content := f.content
    data := Html.withPassthrough f.attrs data }

/-- The markup of a pod. -/
def render (p : PodView) : String :=
  let styleAttr (s : String) := if s.isEmpty then "" else " style=\"" ++ Html.escape s ++ "\""
  let header := match p.title with
    | some t =>
      if t.truthy then
        "    <div class=\"bx-pod-header\"" ++ styleAttr p.headerStyle ++ ">\n" ++
        "        <span class=\"bx-pod-title\">" ++ Html.text t ++ "</span>\n" ++
        "    </div>\n"
      else ""
    | none => ""
  "<div id=\"" ++ Html.text p.id ++ "\" class=\"" ++ Html.escape p.classes ++ "\"" ++
    styleAttr p.style ++ Html.attrPairs p.data ++ ">\n" ++
  header ++
  "    <div class=\"bx-pod-body\"" ++ styleAttr p.bodyStyle ++ ">\n" ++
  Html.sourceBody p.source p.content ++ "\n" ++
  "    </div>\n" ++
  "</div>\n"

end PodView

namespace DivView

/-- The view of a closed div frame. -/
def ofFrame (f : Frame) : DivView :=
  let bind := (f.get? "bind").filter Value.truthy
  let onLoad := ((f.get? "bindOnLoad").map Value.truthy).getD true
  let data := match bind with
    | some b => [("data-bind", b.text), ("data-bind-on-load", Html.boolText onLoad)]
    | none => []
  { id := f.id
    tagName := (f.get? "tagName").getD (.str "div")
    classes := Html.classes [some "bx-div", bind.map fun _ => "bx-div-bind",
      if bind.isSome && onLoad then some "bx-bind-on-load" else none,
      (f.get? "class").map Value.text]
    style := Html.styles (Html.sizeStyles f.attrs ++ ((f.get? "style").map Value.text).toList)
    loading := bind.isSome && onLoad
    content := f.content
    data := Html.withPassthrough f.attrs data }

/-- The markup of a div. -/
def render (d : DivView) : String :=
  let styleAttr := if d.style.isEmpty then "" else " style=\"" ++ Html.escape d.style ++ "\""
  "<" ++ Html.text d.tagName ++ " id=\"" ++ Html.text d.id ++ "\" class=\"" ++
    Html.escape d.classes ++ "\"" ++ styleAttr ++ Html.attrPairs d.data ++ ">\n" ++
  (if d.loading then "    <div class=\"bx-bind-loading\">Loading...</div>\n" else d.content ++ "\n") ++
  "</" ++ Html.text d.tagName ++ ">\n"

end DivView
end UiTags
