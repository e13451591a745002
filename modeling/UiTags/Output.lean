import UiTags.Markup.Grid
import UiTags.Markup.Layout
import UiTags.Markup.Pod
import UiTags.Markup.Form
import UiTags.Markup.Assets
import UiTags.Script.Grid
import UiTags.Script.Update
import UiTags.Script.Layout
import UiTags.Script.Pod
import UiTags.Script.Proxy
import UiTags.Script.Import
import UiTags.Script.Params
import UiTags.Log
import UiTags.Fragment

/-!
# What a closed tag gives the document

A container tag, once closed, gives its markup followed by its script, and reports what it did
on the way. Tags without markup of their own give none; a tag gives a script when it has
behaviour to wire:

* a grid and a grid update always;
* a layout when it is a tab or accordion layout or one of its areas loads a source;
* a pod when it loads a source, a div when it is bound;
* a proxy and an asset import always.

An asset import reports its tags and stylesheet count; a bind expression that reads as generic
and a dropped import parameter are warned about; every script given is reported with the
element it serves.
-/

namespace UiTags

/-- The markup, script and log lines of a closed tag. -/
structure Output where
  markup : String
  script : String
  log : List LogLine

namespace Output

/-- The text a closed tag writes: markup, then script. -/
def text (o : Output) : String := o.markup ++ o.script

/-- The warning for a bind expression that reads as generic, if it does. -/
def bindWarnings (expr : String) : List LogLine :=
  (Bind.warning? expr).toList.map fun t => ⟨.warning, .binds, t⟩

/-- A frame attribute, null standing for an absent one. -/
def attr (f : Frame) (name : String) : Value := (f.get? name).getD .null

/-- A frame attribute with a default for an absent one. -/
def attrOr (f : Frame) (name : String) (default : Value) : Value := (f.get? name).getD default

/-- The last dot-separated part of a component path. -/
def lastSegment (path : String) : String :=
  ((path.splitOn ".").getLast?).getD path

/-- The markup of a closed frame and the lines it logs. -/
def markupOf (c : Config) (f : Frame) : Except Failure (String × List LogLine) :=
  match f.tag with
  | "grid" => .ok ((GridView.ofFrame f).render, [])
  | "layout" => .ok ((LayoutView.ofFrame f).render, [])
  | "pod" => .ok ((PodView.ofFrame f).render, [])
  | "div" => .ok ((DivView.ofFrame f).render, [])
  | "gridupdate" => .ok ((FormView.ofFrame c f).render, [])
  | "ajaximport" => do
    let p ← Assets.plan c f
    let count := (Assets.stylesheets p).length
    pure (Assets.render p,
      [⟨.debug, .markup, s!"ajaximport assets for {Text.commaList p.tags}: {count} stylesheets"⟩])
  | _ => .ok ("", [])

/-- The target of a grid update's script. -/
def updateTarget (f : Frame) : Script.UpdateTarget :=
  if UpdateMode.of? f.attrs == some .database then
    .database (attr f "dataSource") (attr f "tableName") (attr f "tableOwner")
      (attr f "tableQualifier") (attr f "username") (attr f "password")
      (attrOr f "keyOnly" (.bool false))
  else .url (attr f "url") (attrOr f "method" (.str "POST"))

/-- Whether a layout's script is given: tab and accordion layouts, and layouts with an area
that loads a source. -/
def layoutWired (f : Frame) : Bool :=
  let type := attr f "type"
  type == .str "tab" || type == .str "accordion" || f.areas.any (·.attrs.holds "source")

/-- The class name of a proxy: the given one, or the last part of the component path. -/
def proxyClass (f : Frame) : Value :=
  let cfc := attr f "cfc"
  let given := attr f "jsClassName"
  if cfc.truthy && !given.truthy then .str (lastSegment cfc.text) else given

/-- The script of a closed frame and the lines it logs before it is reported. -/
def scriptOf (c : Config) (f : Frame) : Except Failure (String × List LogLine) :=
  match f.tag with
  | "grid" =>
    .ok (Script.gridScript f.id (attrOr f "name" (.str "")) (attr f "onLoad") (attr f "onEdit")
      (attr f "onSort") (attr f "onChange"), [])
  | "gridupdate" =>
    .ok (Script.updateScript (attr f "grid") (FormView.formId f) c.gridUpdateEndpoint
      (updateTarget f) (attr f "onSuccess") (attr f "onError"), [])
  | "layout" =>
    .ok (if layoutWired f then (Script.layoutScript f.id (attr f "type"), []) else ("", []))
  | "pod" =>
    .ok (if f.holds "source" then (Script.podScript f.id (attr f "onBindError"), []) else ("", []))
  | "div" =>
    let expr := attr f "bind"
    if expr.truthy then
      .ok (Script.divScript f.id (Bind.parse expr.text) expr (attrOr f "bindOnLoad" (.bool true))
        c.remoteEndpoint (attr f "onBindError"), bindWarnings expr.text)
    else .ok ("", [])
  | "ajaxproxy" =>
    let expr := attr f "bind"
    let bind := if expr.truthy then some (Bind.parse expr.text) else none
    let warnings := if expr.truthy then bindWarnings expr.text else []
    .ok (Script.proxyScript (attr f "cfc") (proxyClass f) bind expr c.remoteEndpoint
      (attr f "onSuccess") (attr f "onError"), warnings)
  | "ajaximport" => do
    let raw := ((f.get? "params").filter Value.truthy).map Value.text |>.getD ""
    let css ← Assets.cssBase c f
    let script ← Assets.scriptBase c f
    pure (Script.importScript c.version (.str css) (.str script) c.remoteEndpoint
      (Script.parseParams raw), (Script.paramWarnings raw).map fun t => ⟨.warning, .scripts, t⟩)
  | _ => .ok ("", [])

/-- The line reporting a frame's script, if it gave one. -/
def report (f : Frame) (script : String) : List LogLine :=
  let served := if f.id.truthy then f.id.text else "(anonymous)"
  if script.isEmpty then [] else [⟨.debug, .scripts, s!"Emitted {f.tag} script for {served}"⟩]

/-- The output of a closed frame: markup, script, and the markup's lines, the script's lines
and the report of a script given, in that order. A failure stops the frame, keeping the lines
logged before it. -/
def ofFrame (c : Config) (f : Frame) : Except (List LogLine × Failure) Output := do
  let (markup, markupLog) ← (markupOf c f).mapError (([] : List LogLine), ·)
  let (script, scriptLog) ← (scriptOf c f).mapError (markupLog, ·)
  pure { markup, script, log := markupLog ++ scriptLog ++ report f script }

/-- The output of a closed frame when a template directory gives templates: a fragment whose
template, or a template it loads, is given is rendered from the templates, the others as
`ofFrame` renders them. A template that fails stops the frame, keeping the lines logged before
it. The fragments of a tag held by `holders` other tags render that many calls deeper than
those of a top-level tag. -/
def withTemplates (c : Config) (given : List (String × String)) (holders : Nat) (f : Frame) :
    Except (List LogLine × Failure) Output := do
  let lib := Fragment.library given
  let (nativeMarkup, markupLog) ← (markupOf c f).mapError (([] : List LogLine), ·)
  let rendered (name : String) (names : Except Failure Template.Names) :
      Except Failure String := do
    Template.render lib name (← names) (Template.Depth.fragment + holders)
      |>.mapError Failure.template
  let markup ← (match Fragment.markup? c f with
    | some (name, names) =>
      if Fragment.replaced given name then rendered name names else .ok nativeMarkup
    | none => .ok nativeMarkup).mapError (markupLog, ·)
  let (nativeScript, scriptLog) ← (scriptOf c f).mapError (markupLog, ·)
  let script ← (match Fragment.script? c f (layoutWired f) (proxyClass f) with
    | some (name, names) =>
      if Fragment.replaced given name then rendered name names else .ok nativeScript
    | none => .ok nativeScript).mapError (markupLog ++ scriptLog, ·)
  pure { markup, script, log := markupLog ++ scriptLog ++ report f script }

end Output
end UiTags
