import UiTags.Markup.Html
import UiTags.Config

/-!
# Asset imports

An asset import links the core stylesheet and script, then the stylesheet and script of each
imported tag. The imported tags are the ones the import names (a comma-separated list, matched
after trimming and lowering), taken in asset order; an import that names none takes the
configured defaults and also loads the proxy script. The bases are the import's own sources or
the configured ones, without trailing slashes. The configured bases and tags are checked as they
are used, the bases first.

The main statement is `requested_sublist`: the tags an import names come out in asset order,
each once.
-/

namespace UiTags
namespace Assets

/-- The tags a comma-separated list names: each part trimmed and lowered, blank parts dropped. -/
def named (requested : String) : List String :=
  ((requested.splitOn ",").map Text.strip).filter (!·.isEmpty) |>.map Text.lower

/-- The asset tags among the named ones, in asset order. -/
def requested (names : List String) : List String :=
  assetTags.filter names.contains

/-- The tags whose assets an import pulls in. -/
def tags (c : Config) (f : Frame) : Except Failure (List String) :=
  match (f.get? "tags").filter Value.truthy with
  | some v => .ok (requested (named v.text))
  | none => c.importTags

/-- Whether the import names no tags of its own. -/
def usesDefaults (f : Frame) : Bool := !f.holds "tags"

/-- The stylesheet base of an import. -/
def cssBase (c : Config) (f : Frame) : Except Failure String :=
  match (f.get? "cssSrc").filter Value.truthy with
  | some v => .ok (Text.trimEndChar '/' v.text)
  | none => c.cssBase

/-- The script base of an import. -/
def scriptBase (c : Config) (f : Frame) : Except Failure String :=
  match (f.get? "scriptSrc").filter Value.truthy with
  | some v => .ok (Text.trimEndChar '/' v.text)
  | none => c.scriptBase

/-- What an import links: its stylesheet and script bases, the tags it imports, and whether it
takes the configured defaults. -/
structure Plan where
  cssBase : String
  scriptBase : String
  tags : List String
  defaults : Bool

/-- The plan of an import: the bases first, then the tags. -/
def plan (c : Config) (f : Frame) : Except Failure Plan := do
  let css ← cssBase c f
  let script ← scriptBase c f
  let tags ← tags c f
  pure { cssBase := css, scriptBase := script, tags, defaults := usesDefaults f }

/-- The stylesheets an import links. -/
def stylesheets (p : Plan) : List String :=
  (p.cssBase ++ "/boxlang-ajax-core.css") :: p.tags.map fun t => s!"{p.cssBase}/boxlang-{t}.css"

/-- The scripts an import loads. -/
def scripts (p : Plan) : List String :=
  (p.scriptBase ++ "/boxlang-ajax-core.js") :: p.tags.map (fun t => s!"{p.scriptBase}/boxlang-{t}.js") ++
    (if p.defaults then [p.scriptBase ++ "/boxlang-ajaxproxy.js"] else [])

/-- The markup of an import: a link per stylesheet, then a script element per script. -/
def render (p : Plan) : String :=
  String.join ((stylesheets p).map fun href =>
    "<link rel=\"stylesheet\" type=\"text/css\" href=\"" ++ Html.escape href ++ "\">\n") ++
  String.join ((scripts p).map fun src =>
    "<script type=\"text/javascript\" src=\"" ++ Html.escape src ++ "\"></script>\n")

theorem requested_sublist (names : List String) : (requested names).Sublist assetTags :=
  List.filter_sublist

end Assets
end UiTags
