import UiTags.Output
import UiTags.Ids
import UiTags.Attribute.Set

/-!
# Documents

A document is rendered one event at a time: a tag starts, text is written, a tag ends, the
document is finished. The document keeps its open frames (innermost first), the text written
outside every frame, its id source and its log.

* **Start.** The tag must be known; a child tag (column, row, area) needs an open frame of its
  parent's kind; the attributes are validated, then checked together; then the frame opens,
  taking the given id when it is truthy, else a fresh one when the tag has an id prefix, else
  the empty id. A start that fails changes nothing.
* **Write.** Text goes into the innermost frame, or the document when none is open.
* **End.** The tag must be known and its frame innermost; the frame closes. Tags that take no
  body refuse one that is not blank; a child registers into its parent; a bound div refuses
  a body; any other tag writes its output where text would go. A failure after the frame
  closed leaves it closed.
* **Finish.** The document's text, when no frame is open.

The small statements here: writing leaves the depth as it is (`depth_write`), and finishing
succeeds exactly when no frame is open (`finish_eq_ok`).
-/

namespace UiTags

/-- A document being rendered. -/
structure Document where
  config : Config
  ids : IdSource
  frames : List Frame := []
  out : String := ""
  log : List LogLine := []
  /-- Templates given in place of packaged ones, by name; none in the usual case. -/
  templates : List (String × String) := []

namespace Document

/-- A fresh document for the settings; the id strategy must be `counter` or `random`, and the
seed one that can seed a random source. -/
def create (c : Config) : Except Failure Document :=
  match IdSource.create c.idStrategy c.seedNumber? with
  | .ok ids => .ok { config := c, ids }
  | .error f => .error f

/-- How many frames are open. -/
def depth (d : Document) : Nat := d.frames.length

/-- The document with one more log line. -/
def note (d : Document) (level : LogLevel) (source : LogSource) (text : String) : Document :=
  { d with log := d.log ++ [⟨level, source, text⟩] }

/-- The document with more log lines. -/
def noteAll (d : Document) (lines : List LogLine) : Document :=
  { d with log := d.log ++ lines }

/-! ## Tag roles -/

/-- For a child tag: the kind of frame it registers into, its display name and its parent's. -/
def childOf? (tag : String) : Option (FrameKind × String × String) :=
  match tag with
  | "gridcolumn" => some (.grid, "GridColumn", "Grid")
  | "gridrow" => some (.grid, "GridRow", "Grid")
  | "layoutarea" => some (.layout, "LayoutArea", "Layout")
  | _ => none

/-- For a tag whose markup ignores its body: the message refusing a body. -/
def bodyless? (tag : String) : Option String :=
  match tag with
  | "grid" => some "Grid body may only contain GridColumn and GridRow tags"
  | "gridcolumn" => some "GridColumn does not accept body content"
  | "gridrow" => some "GridRow does not accept body content"
  | "gridupdate" => some "GridUpdate does not accept body content"
  | "layout" => some "Layout body may only contain LayoutArea tags"
  | "ajaxproxy" => some "AjaxProxy does not accept body content"
  | "ajaximport" => some "AjaxImport does not accept body content"
  | _ => none

/-- The innermost open frame of a kind. -/
def nearest? (frames : List Frame) (kind : FrameKind) : Option Frame :=
  frames.find? (·.kind == kind)

/-- Change the innermost open frame of a kind. -/
def updateNearest (kind : FrameKind) (g : Frame → Frame) : List Frame → List Frame
  | [] => []
  | f :: fs => if f.kind == kind then g f :: fs else f :: updateNearest kind g fs

/-! ## Checks at the start of a tag -/

/-- A grid's page size or page, when given, is at least one; a value that cannot be compared
with one fails the comparison. -/
def checkAtLeastOne (attrs : Attrs) (name : String) : Except Failure Unit :=
  match Value.present (attrs.find? name) with
  | none => .ok ()
  | some v =>
    match v.belowOne? with
    | some true => .error (.gridPageBelowOne name)
    | some false => .ok ()
    | none => .error (.unorderedWithInt v.typeName)

/-- A grid: `multirowselect` selects many rows; page size and page are at least one; a query
is a list of mappings. -/
def checkGrid (attrs : Attrs) : Except Failure Attrs := do
  let attrs := if attrs.holds "multirowselect" then attrs.put "selectMode" (.str "multi") else attrs
  checkAtLeastOne attrs "pageSize"
  checkAtLeastOne attrs "page"
  match attrs.find? "query" with
  | none | some .null => pure attrs
  | some (.list rows) => if rows.all Value.isObj then pure attrs else throw .queryNotRows
  | some _ => throw .queryNotRows

/-- An area of a border layout: at a border position not taken yet. -/
def checkArea (frames : List Frame) (attrs : Attrs) : Except Failure Attrs :=
  match nearest? frames .layout with
  | some layout =>
    if layout.get? "type" != some (.str "border") then .ok attrs
    else
      let position := Value.present (attrs.find? "position")
      if !TagDef.borderPositions.any (fun p => position == some (.str p)) then
        .error .positionNotBorder
      else if layout.areas.any (·.position == position) then
        .error (.positionTaken ((position.map Value.text).getD ""))
      else .ok attrs
  | none => .ok attrs

/-- A proxy: a component or a bind expression, and a class name when the component's last name
is no script name. -/
def checkProxy (attrs : Attrs) : Except Failure Attrs :=
  let cfc := (attrs.find? "cfc").getD .null
  if !cfc.truthy && !attrs.holds "bind" then .error .proxyTargetMissing
  else if cfc.truthy && !attrs.holds "jsClassName" then
    let name := Output.lastSegment cfc.text
    if Script.isIdentifier name then .ok attrs else .error (.proxyClassName name)
  else .ok attrs

/-- An asset import: every tag it names has assets. -/
def checkImport (attrs : Attrs) : Except Failure Attrs :=
  match (attrs.find? "tags").filter Value.truthy with
  | some v =>
    let named := ((v.text.splitOn ",").map Text.strip).filter (!·.isEmpty)
    if named.all (fun t => assetTags.contains (Text.lower t)) then .ok attrs
    else .error .importTagsUnknown
  | none => .ok attrs

/-- The checks of a tag's attributes taken together, after each was validated. -/
def checkStart (frames : List Frame) (tag : String) (attrs : Attrs) (hasBody : Bool) :
    Except Failure Attrs :=
  match tag with
  | "grid" => checkGrid attrs
  | "gridrow" =>
    if ((attrs.find? "data").map Value.isObj).getD false then .ok attrs else .error .rowNotMapping
  | "gridupdate" => if (UpdateMode.of? attrs).isSome then .ok attrs else .error .updateTargetMissing
  | "layoutarea" => checkArea frames attrs
  | "div" => if attrs.holds "bind" && hasBody then .error .bindWithBody else .ok attrs
  | "ajaxproxy" => checkProxy attrs
  | "ajaximport" => checkImport attrs
  | _ => .ok attrs

/-! ## Steps -/

/-- The definition of a tag name, or the failure naming it. -/
def definition (tag : String) : Except Failure TagDef :=
  match TagDef.lookup tag with
  | some d => .ok d
  | none => .error (.unknownTag tag)

/-- Open a frame for a validated tag: the truthy given id, or a fresh one for a tag with an id
prefix, or the empty id. -/
def openFrame (d : Document) (td : TagDef) (attrs : Attrs) : Document :=
  let given := (attrs.find? "id").getD .null
  let (id, d) : Value × Document :=
    if given.truthy then (given, d)
    else match td.idPrefix with
      | some pre =>
        let (fresh, ids) := d.ids.next pre
        (.str fresh, { d with ids }.note .debug .frames s!"Generated element id {fresh}")
      | none => (.str "", d)
  let d := { d with frames := { tag := td.name, kind := td.frame, id, attrs } :: d.frames }
  d.note .debug .frames s!"Opened {td.name} frame {id.text} (depth {d.depth})"

/-- Start a tag with its supplied attributes; `hasBody` tells whether its body holds a tag or
text that is not blank. -/
def start (d : Document) (tag : String) (raw : Attrs) (hasBody : Bool) :
    Except Failure Document := do
  let td ← definition tag
  if let some (kind, child, parent) := childOf? td.name then
    if (nearest? d.frames kind).isNone then throw (.outsideParent td.name child parent)
  let attrs ← Attrs.validate td.name td.display td.attrs raw
  let attrs ← checkStart d.frames td.name attrs hasBody
  pure (d.openFrame td attrs)

/-- Write text into the innermost frame, or the document when none is open. -/
def write (d : Document) (text : String) : Document :=
  match d.frames with
  | [] => { d with out := d.out ++ text }
  | f :: rest => { d with frames := { f with body := f.body ++ [text] } :: rest }

/-- Register a closed child frame into its parent, the innermost open frame of its kind. -/
def register (d : Document) (f : Frame) (kind : FrameKind) : Document :=
  match nearest? d.frames kind with
  | none => d
  | some parent =>
    let (typeName, g) : String × (Frame → Frame) :=
      match f.tag with
      | "gridcolumn" =>
        let name := Output.attr f "name"
        ("GridColumn", fun p => { p with columns := p.columns ++
          [{ name := name.text, header := (Output.attrOr f "header" name).text,
             index := p.columns.length, attrs := f.attrs }] })
      | "gridrow" =>
        let data := match Output.attr f "data" with
          | .obj fs => fs
          | _ => []
        ("GridRow", fun p => { p with rows := p.rows ++ [{ index := p.rows.length, data }] })
      | _ =>
        ("LayoutArea", fun p => { p with areas := p.areas ++
          [{ id := f.id, index := p.areas.length, title := f.get? "title",
             position := f.get? "position", content := f.content, attrs := f.attrs }] })
    let d := { d with frames := updateNearest kind g d.frames }
    d.note .debug .frames s!"Registered {typeName} into {parent.tag} frame {parent.id.text}"

/-- Write the output of a closed frame, rendered from the given templates if there are any. A
frame that fails stops the document with the lines logged before it. -/
def emit (d : Document) (f : Frame) : Document × Option Failure :=
  let output :=
    if d.templates.isEmpty then Output.ofFrame d.config f
    else Output.withTemplates d.config d.templates d.depth f
  match output with
  | .ok o => ((d.noteAll o.log).write o.text, none)
  | .error (log, e) => (d.noteAll log, some e)

/-- What a closed frame does: refuse a body it does not take, register into its parent, or
write its output. -/
def settle (d : Document) (f : Frame) : Document × Option Failure :=
  let blank := Text.isBlankText f.content
  match bodyless? f.tag, childOf? f.tag with
  | some msg, _ =>
    if !blank then (d, some (.bodyNotAllowed f.tag msg))
    else match childOf? f.tag with
      | some (kind, _, _) => (d.register f kind, none)
      | none => d.emit f
  | none, some (kind, _, _) => (d.register f kind, none)
  | none, none =>
    if f.tag == "div" && f.holds "bind" && !blank then (d, some .bindWithBody)
    else d.emit f

/-- End a tag: the document after it and the failure that stopped it, if any. -/
def close (d : Document) (tag : String) : Document × Option Failure :=
  match definition tag with
  | .error e => (d, some e)
  | .ok td =>
    match d.frames with
    | [] => (d, some (.closeNothingOpen td.name))
    | f :: rest =>
      if f.tag != td.name then (d, some (.closeMismatch td.name f.tag))
      else settle ({ d with frames := rest }.note .debug .frames s!"Closed {f.tag} frame {f.id.text}") f

/-- The document's text, when every frame is closed. -/
def finish (d : Document) : Except Failure String :=
  if d.frames.isEmpty then .ok d.out else .error (.unclosed (d.frames.reverse.map (·.tag)))

theorem depth_write (d : Document) (text : String) : (d.write text).depth = d.depth := by
  unfold write depth
  split <;> simp_all

theorem finish_eq_ok (d : Document) (text : String) :
    d.finish = .ok text ↔ d.frames = [] ∧ d.out = text := by
  unfold finish
  cases d.frames <;> simp [eq_comm]

end Document
end UiTags
