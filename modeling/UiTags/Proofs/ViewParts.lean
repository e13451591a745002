import UiTags.Proofs.MarkupParts
import UiTags.Proofs.PageBar

/-!
# The views written in parts

Each view writes its markup as a run of parts (`Html.Part`): the fixed text of its template,
start and end tags, the values it places as escaped text, the comment naming a source, and the
captured content of the frame. Here every view is given as its parts, and its markup shown to be
those parts written one after another.

The parts are clean, so they read as meant, when the names the view writes are plain and
distinct and its captured content is closed markup; for the root element of a grid, layout, pod
or div that asks its data names to be distinct, plain `data-` names.
-/

namespace UiTags
namespace Html

open Html.Part

/-- Attributes that each have a value. -/
def valued (ps : List (String × String)) : List (String × Option String) :=
  ps.map fun p => (p.1, some p.2)

theorem names_valued (ps : List (String × String)) : (valued ps).map (·.1) = ps.map (·.1) := by
  simp [valued, Function.comp_def]

@[simp] theorem namesPlain_valued {ps : List (String × String)} :
    NamesPlain (valued ps) ↔ PlainNames (ps.map (·.1)) := by
  rw [NamesPlain, names_valued]

theorem PlainNames.sublist {ns ms : List String} (h : PlainNames ns) (hs : ms.Sublist ns) :
    PlainNames ms :=
  ⟨fun n hn => h.1 n (hs.subset hn), h.2.sublist hs⟩

/-- Attributes whose names are among plain, distinct names have plain, distinct names. -/
theorem namesPlain_of_sublist {as : List (String × Option String)} {ns : List String}
    (hs : (as.map (·.1)).Sublist ns) (h : PlainNames ns) : NamesPlain as :=
  h.sublist hs

theorem attrItems_valued (ps : List (String × String)) : attrItems (valued ps) = attrPairs ps := by
  induction ps with
  | nil => rfl
  | cons p ps ih =>
    simp only [attrItems, valued, List.map_cons, String.join_cons, attrPairs, attrItem] at ih ⊢
    rw [ih]

/-- A start tag whose attributes each have a value is written as `startTag` writes it. -/
theorem openTagText_valued (n : String) (ps : List (String × String)) :
    openTagText n (valued ps) = startTag n ps := by
  rw [openTagText, attrItems_valued, startTag, openTag]

@[simp] theorem attrPairs_nil : attrPairs [] = "" := rfl

@[simp] theorem attrPairs_cons (p : String × String) (ps : List (String × String)) :
    attrPairs (p :: ps) = " " ++ escape p.1 ++ "=\"" ++ escape p.2 ++ "\"" ++ attrPairs ps := by
  simp [attrPairs]

@[simp] theorem attrPairs_append (ps qs : List (String × String)) :
    attrPairs (ps ++ qs) = attrPairs ps ++ attrPairs qs := by
  simp [attrPairs, String.join_append]

/-- A text whose characters are all written as they are is its own escape. -/
theorem escape_of_all {s : String} (h : (s.toList.all fun c => escapeChar c == [c]) = true) :
    escape s = s := by
  apply escape_of_forall
  intro c hc
  simpa using List.all_eq_true.1 h c hc

theorem attrItems_append (as bs : List (String × Option String)) :
    attrItems (as ++ bs) = attrItems as ++ attrItems bs := by
  simp [attrItems, String.join_append]

theorem attrItems_nil : attrItems [] = "" := rfl

theorem attrItems_ite (c : Prop) [Decidable c] (as bs : List (String × Option String)) :
    attrItems (if c then as else bs) = if c then attrItems as else attrItems bs :=
  apply_ite attrItems c as bs

theorem attrPairs_ite (c : Prop) [Decidable c] (ps qs : List (String × String)) :
    attrPairs (if c then ps else qs) = if c then attrPairs ps else attrPairs qs :=
  apply_ite attrPairs c ps qs

theorem escape_ite (c : Prop) [Decidable c] (a b : String) :
    escape (if c then a else b) = if c then escape a else escape b :=
  apply_ite escape c a b

theorem writeAll_ite (c : Prop) [Decidable c] (ps qs : List Part) :
    writeAll (if c then ps else qs) = if c then writeAll ps else writeAll qs :=
  apply_ite writeAll c ps qs

/-- A `style` attribute as the views write it, none for an empty style. -/
theorem styleAttr_eq (s : String) :
    (if s.isEmpty then "" else " style=\"" ++ escape s ++ "\"") = attrPairs (stylePair s) := by
  unfold stylePair
  split
  · rfl
  · simp (disch := decide) only [attrPairs_cons, attrPairs_nil, escape_of_all, String.append_empty,
      String.append_assoc]
    rfl

/-- A number's digits are written as they are. -/
@[simp] theorem flatMap_escapeChar_toDigits (n : Nat) :
    (Nat.toDigits 10 n).flatMap escapeChar = Nat.toDigits 10 n := by
  have h := congrArg String.toList (escape_toString n)
  simpa [escape_toList, Nat.toString_eq_repr, Nat.repr] using h

/-- A negative number's numeral is a minus sign and digits, written as it is. -/
@[simp] theorem escape_intToString (i : Int) : escape (toString i) = toString i := by
  cases i with
  | ofNat m => exact escape_toString m
  | negSucc m =>
    show escape ("-" ++ toString (m + 1)) = "-" ++ toString (m + 1)
    rw [escape_append, escape_toString]
    rfl

theorem stylePair_names (style : String) : ((stylePair style).map (·.1)).Sublist ["style"] := by
  unfold stylePair
  split <;> simp

/-! ## Attribute lists the views share -/

/-- The attributes of a root element: id, classes, the style when there is one, then the data
pairs. -/
def rootAttrs (id : Value) (classes style : String) (data : List (String × String)) :
    List (String × Option String) :=
  valued (rootPairs id classes style data)

/-- Root attributes over distinct, plain `data-` names have plain, distinct names. -/
theorem namesPlain_rootAttrs (id : Value) (classes style : String) {data : List (String × String)}
    (hdata : DataNames (data.map (·.1))) : NamesPlain (rootAttrs id classes style data) := by
  obtain ⟨hnodup, hplain⟩ := rootPairs_names id classes style hdata
  rw [rootAttrs, namesPlain_valued]
  refine ⟨fun n hn => ?_, hnodup⟩
  obtain ⟨p, hp, rfl⟩ := List.mem_map.1 hn
  exact hplain p hp

/-- Root attributes over data names among given ones have their names among `id`, `class`,
`style` and those. -/
theorem rootAttrs_names (id : Value) (classes style : String) {data : List (String × String)}
    {names : List String} (hdata : (data.map (·.1)).Sublist names) :
    ((rootAttrs id classes style data).map (·.1)).Sublist (["id", "class", "style"] ++ names) := by
  rw [rootAttrs, names_valued, rootPairs, List.map_append, List.map_append]
  exact ((List.Sublist.refl ["id", "class"]).append (stylePair_names style)).append hdata

/-- A class and, when there is one, a style. -/
def classStyle (classes style : String) : List (String × Option String) :=
  valued ([("class", classes)] ++ stylePair style)

theorem namesPlain_classStyle (classes style : String) : NamesPlain (classStyle classes style) := by
  refine namesPlain_of_sublist ?_ (by decide : PlainNames ["class", "style"])
  rw [classStyle, names_valued, List.map_append]
  exact (List.Sublist.refl ["class"]).append (stylePair_names style)

/-- The body of an element that may load its content from a source (`sourceBody`), in parts. -/
def sourceParts (source : Option Value) (content : String) : List Part :=
  match source with
  | some src =>
    if src.truthy then
      comment (" Content loaded from: " ++ src.text ++ " ") :: lit "\n" ::
        (if content.isEmpty then
          [start "div" (valued [("class", "bx-source-loading")]), lit "Loading content...",
            close "div", lit "\n"]
         else [Part.content content, lit "\n"])
    else [Part.content content, lit "\n"]
  | none => [Part.content content, lit "\n"]

theorem sourceBody_eq (source : Option Value) (content : String) :
    sourceBody source content = writeAll (sourceParts source content) := by
  unfold sourceBody sourceParts
  split
  · simp (disch := decide) only [writeAll_cons, writeAll_nil, writeAll_ite, write, text,
      openTagText_valued, startTag, openTag, closeTagText, attrPairs_cons, attrPairs_nil,
      escape_of_all, escape_append, String.append_empty, String.append_assoc]
    rfl
  · simp only [writeAll_cons, writeAll_nil, write, String.append_empty]

theorem clean_sourceParts (source : Option Value) {content : String} (h : Closed content) :
    Clean (sourceParts source content) := by
  have hcontent : Clean [Part.content content, lit "\n"] :=
    ⟨by simp [Sound, h], rfl, by simp [endsCR]⟩
  unfold sourceParts
  split
  next src =>
    split
    · split
      · exact ⟨by simp [Sound, String.toList_append]; decide, rfl, by simp [endsCR]⟩
      · have hsource : Clean [comment (" Content loaded from: " ++ src.text ++ " "), lit "\n"] :=
          ⟨by simp [Sound, String.toList_append], rfl, by simp [endsCR]⟩
        exact hsource.append hcontent
    · exact hcontent
  · exact hcontent

end Html

open Html Html.Part

namespace PodView

/-- The header of a pod, in parts: the title, when it is truthy. -/
def headerParts (p : PodView) : List Part :=
  match p.title with
  | some t =>
    if t.truthy then
      [lit "    ", start "div" (classStyle "bx-pod-header" p.headerStyle), lit "\n        ",
        start "span" (valued [("class", "bx-pod-title")]), Part.text t.text, close "span",
        lit "\n    ", close "div", lit "\n"]
    else []
  | none => []

/-- A pod in parts. -/
def parts (p : PodView) : List Part :=
  [start "div" (rootAttrs p.id p.classes p.style p.data), lit "\n"] ++
  headerParts p ++
  [lit "    ", start "div" (classStyle "bx-pod-body" p.bodyStyle), lit "\n"] ++
  sourceParts p.source p.content ++
  [lit "\n    ", close "div", lit "\n", close "div", lit "\n"]

set_option maxRecDepth 8000 in
theorem render_eq (p : PodView) : p.render = writeAll p.parts := by
  unfold render parts headerParts rootAttrs classStyle rootPairs
  simp only [styleAttr_eq, sourceBody_eq]
  -- the header is written when the title is given; the rest does not depend on it
  cases p.title with
  | some t =>
    simp (disch := decide) only [writeAll_cons, writeAll_nil, writeAll_append, writeAll_ite, write,
        Html.text, openTagText_valued, startTag, openTag, closeTagText, attrPairs_cons,
        attrPairs_nil, attrPairs_append, escape_of_all, String.append_empty, String.append_assoc]
    rfl
  | none =>
    simp (disch := decide) only [writeAll_cons, writeAll_nil, writeAll_append, write, Html.text,
        openTagText_valued, startTag, openTag, closeTagText, attrPairs_cons, attrPairs_nil,
        attrPairs_append, escape_of_all, String.append_empty, String.append_assoc]
    rfl

theorem clean_headerParts (p : PodView) : Clean p.headerParts := by
  unfold headerParts
  split
  · split
    · exact ⟨by simp [Sound, namesPlain_classStyle]; decide, rfl, by simp [endsCR]⟩
    · exact Clean.nil
  · exact Clean.nil

/-- A pod's parts are clean when its data names are distinct, plain `data-` names and its
content is closed markup. -/
theorem clean_parts (p : PodView) (hdata : DataNames (p.data.map (·.1)))
    (hcontent : Closed p.content) : Clean p.parts := by
  have hroot : Clean [start "div" (rootAttrs p.id p.classes p.style p.data), lit "\n"] :=
    ⟨by simp [Sound, namesPlain_rootAttrs _ _ _ hdata]; decide, rfl, by simp [endsCR]⟩
  have hbody : Clean [lit "    ", start "div" (classStyle "bx-pod-body" p.bodyStyle), lit "\n"] :=
    ⟨by simp [Sound, namesPlain_classStyle]; decide, rfl, by simp [endsCR]⟩
  have hend : Clean [lit "\n    ", close "div", lit "\n", close "div", lit "\n"] :=
    ⟨by simp [Sound]; decide, rfl, by simp [endsCR]⟩
  exact (((hroot.append (clean_headerParts p)).append hbody).append
    (clean_sourceParts p.source hcontent)).append hend

end PodView

namespace DivView

/-- A div in parts: its element, holding a loading note or the content. -/
def parts (d : DivView) : List Part :=
  [start (text d.tagName) (rootAttrs d.id d.classes d.style d.data), lit "\n"] ++
  (if d.loading then
    [lit "    ", start "div" (valued [("class", "bx-bind-loading")]), lit "Loading...",
      close "div", lit "\n"]
   else [Part.content d.content, lit "\n"]) ++
  [close (text d.tagName), lit "\n"]

theorem render_eq (d : DivView) : d.render = writeAll d.parts := by
  unfold render parts rootAttrs rootPairs
  simp only [styleAttr_eq]
  simp (disch := decide) only [writeAll_cons, writeAll_nil, writeAll_append, writeAll_ite, write,
      Html.text, openTagText_valued, startTag, openTag, closeTagText, attrPairs_cons, attrPairs_nil,
      attrPairs_append, escape_of_all, String.append_empty, String.append_assoc]
  rfl

/-- A div's parts are clean when its element name is read as data, its data names are distinct,
plain `data-` names and its content is closed markup. -/
theorem clean_parts (d : DivView) (hname : DataElement (text d.tagName))
    (hdata : DataNames (d.data.map (·.1))) (hcontent : Closed d.content) : Clean d.parts := by
  have hroot : Clean [start (text d.tagName) (rootAttrs d.id d.classes d.style d.data), lit "\n"] :=
    ⟨by simp [Sound, hname, namesPlain_rootAttrs _ _ _ hdata], rfl, by simp [endsCR]⟩
  have hend : Clean [close (text d.tagName), lit "\n"] :=
    ⟨by simp [Sound, hname.1], rfl, by simp [endsCR]⟩
  refine (hroot.append ?_).append hend
  split
  · exact ⟨by simp [Sound]; decide, rfl, by simp [endsCR]⟩
  · exact ⟨by simp [Sound, hcontent], rfl, by simp [endsCR]⟩

end DivView

namespace FormView

/-- The hidden form of a grid update in parts: the form, and its two hidden inputs. -/
def parts (v : FormView) : List Part :=
  [start "form" (valued [("id", v.id.text), ("class", "bx-grid-update"), ("method", v.method.text),
      ("action", v.action.text), ("data-grid", v.gridName.text), ("style", "display: none")]),
    lit "\n    ",
    start "input" (valued [("type", "hidden"), ("name", "gridName"), ("value", v.gridName.text)]),
    lit "\n    ",
    start "input" (valued [("type", "hidden"), ("name", "gridData"), ("value", "")]),
    lit "\n", close "form", lit "\n"]

set_option maxRecDepth 4000 in
theorem render_eq (v : FormView) : v.render = writeAll v.parts := by
  unfold render parts
  simp (disch := decide) only [writeAll_cons, writeAll_nil, write, Html.text, openTagText_valued,
      startTag, openTag, closeTagText, attrPairs_cons, attrPairs_nil, escape_of_all,
      String.append_empty, String.append_assoc]
  rfl

/-- The form's parts are always clean: its names are fixed. -/
theorem clean_parts (v : FormView) : Clean v.parts :=
  ⟨by simp [parts, Sound]; decide, rfl, by simp [parts, endsCR]⟩

end FormView

namespace Assets

/-- A stylesheet link in parts. -/
def linkParts (href : String) : List Part :=
  [start "link" (valued [("rel", "stylesheet"), ("type", "text/css"), ("href", href)]), lit "\n"]

/-- A script element loading a script, in parts. -/
def scriptParts (src : String) : List Part :=
  [Part.script (valued [("type", "text/javascript"), ("src", src)]) "", lit "\n"]

/-- An import in parts: a link per stylesheet, then a script element per script. -/
def parts (p : Plan) : List Part :=
  (stylesheets p).flatMap linkParts ++ (scripts p).flatMap scriptParts

theorem render_eq (p : Plan) : render p = writeAll (parts p) := by
  have hlink (href : String) :
      "<link rel=\"stylesheet\" type=\"text/css\" href=\"" ++ escape href ++ "\">\n" =
        writeAll (linkParts href) := by
    simp (disch := decide) only [linkParts, writeAll_cons, writeAll_nil, write, openTagText_valued,
        startTag, openTag, attrPairs_cons, attrPairs_nil, escape_of_all, String.append_empty,
        String.append_assoc]
    rfl
  have hscript (src : String) :
      "<script type=\"text/javascript\" src=\"" ++ escape src ++ "\"></script>\n" =
        writeAll (scriptParts src) := by
    simp (disch := decide) only [scriptParts, writeAll_cons, writeAll_nil, write,
        openTagText_valued, startTag, openTag, attrPairs_cons, attrPairs_nil, escape_of_all,
        String.append_empty, String.append_assoc]
    rfl
  rw [render, parts, writeAll_append, writeAll_flatMap, writeAll_flatMap]
  simp only [hlink, hscript]

/-- An import's parts are always clean: its names are fixed and its script elements empty. -/
theorem clean_parts (p : Plan) : Clean (parts p) := by
  have hkeeps : Keeps "" := rfl
  refine (Clean.flatMap fun href _ => ?_).append (Clean.flatMap fun src _ => ?_)
  · exact ⟨by simp [linkParts, Sound]; decide, rfl, by simp [linkParts, endsCR]⟩
  · exact ⟨by simp [scriptParts, Sound, hkeeps]; decide, rfl, by simp [scriptParts, endsCR]⟩

end Assets

namespace LayoutView

/-- The names an area writes as its own data pairs. -/
def areaDataNames : List String :=
  ["data-area-index", "data-title", "data-source", "data-collapsible", "data-splitter"]

/-- The attributes of an area's element: its root attributes with the given classes, then the
given pairs. -/
def areaAttrs (a : AreaView) (classes : String) (extra : List (String × String)) :
    List (String × Option String) :=
  valued (rootPairs a.id classes a.style a.data ++ extra)

theorem namesPlain_areaAttrs {a : AreaView} (ha : (a.data.map (·.1)).Sublist areaDataNames)
    (classes : String) (extra : List (String × String))
    (hextra : (extra.map (·.1)).Sublist ["role"]) : NamesPlain (areaAttrs a classes extra) := by
  have hroot := rootAttrs_names a.id classes a.style ha
  rw [rootAttrs, names_valued] at hroot
  refine namesPlain_of_sublist ?_
    (by decide : PlainNames (["id", "class", "style"] ++ areaDataNames ++ ["role"]))
  rw [areaAttrs, names_valued, List.map_append]
  exact hroot.append hextra

theorem areaOpen_eq (a : AreaView) (classes : String) :
    areaOpen a classes = openTag "div" (rootPairs a.id classes a.style a.data) := by
  unfold areaOpen openTag rootPairs
  simp only [styleAttr_eq]
  simp (disch := decide) only [Html.text, attrPairs_cons, attrPairs_append, escape_of_all,
      String.append_assoc]
  rfl

/-- An area's title line in parts, when it has a title. -/
def titleParts (indent : String) (a : AreaView) : List Part :=
  if a.title.isEmpty then []
  else
    [lit indent, start "div" (valued [("class", "bx-layout-area-title")]), Part.text a.title,
      close "div", lit "\n"]

theorem titleLine_eq (indent : String) (a : AreaView) :
    titleLine indent a = writeAll (titleParts indent a) := by
  unfold titleLine titleParts
  split
  · rfl
  · simp (disch := decide) only [writeAll_cons, writeAll_nil, write, openTagText_valued, startTag,
      openTag, closeTagText, attrPairs_cons, attrPairs_nil, escape_of_all, String.append_empty,
      String.append_assoc]
    rfl

theorem clean_titleParts {indent : String} (hindent : (lit indent).Sound) (a : AreaView) :
    Clean (titleParts indent a) := by
  simp only [Sound] at hindent
  unfold titleParts
  split
  · exact Clean.nil
  · exact ⟨by simp [hindent, Sound]; decide, rfl, by simp [endsCR]⟩

/-- A tab's header button in parts, the first one active. -/
def tabHeaderParts (p : AreaView × Nat) : List Part :=
  [lit "        ",
    start "button" (valued [("type", "button"),
      ("class", "bx-tab-header" ++ if p.2 == 0 then " active" else ""),
      ("data-tab-index", toString p.2), ("role", "tab"), ("aria-controls", p.1.id.text),
      ("aria-selected", if p.2 == 0 then "true" else "false")]),
    Part.text p.1.title, close "button", lit "\n"]

/-- A tab's panel in parts, the first one active. -/
def tabPanelParts (p : AreaView × Nat) : List Part :=
  [lit "        ",
    start "div" (areaAttrs p.1 (if p.2 == 0 then "bx-tab-panel active" else "bx-tab-panel")
      [("role", "tabpanel")]), lit "\n"] ++
  sourceParts p.1.source p.1.content ++
  [lit "\n        ", close "div", lit "\n"]

/-- The tab headers and panels in parts. -/
def tabParts (areas : List AreaView) : List Part :=
  [lit "    ", start "div" (valued [("class", "bx-tab-headers"), ("role", "tablist")]), lit "\n"] ++
  areas.zipIdx.flatMap tabHeaderParts ++
  [lit "    ", close "div", lit "\n    ", start "div" (valued [("class", "bx-tab-panels")]),
    lit "\n"] ++
  areas.zipIdx.flatMap tabPanelParts ++
  [lit "    ", close "div", lit "\n"]

/-- An accordion panel in parts. -/
def accordionParts (a : AreaView) : List Part :=
  [lit "    ",
    start "div" (areaAttrs a
      (if a.collapsed then "bx-accordion-panel collapsed" else "bx-accordion-panel") []),
    lit "\n        ",
    start "div" (valued [("class", "bx-accordion-header"), ("role", "button"),
      ("aria-expanded", if a.collapsed then "false" else "true")]),
    Part.text a.title, close "div", lit "\n        ",
    start "div" (valued [("class", "bx-accordion-content")]), lit "\n"] ++
  sourceParts a.source a.content ++
  [lit "\n        ", close "div", lit "\n    ", close "div", lit "\n"]

/-- A region of a border layout in parts. -/
def regionParts (a : AreaView) : List Part :=
  [lit "        ",
    start "div"
      (areaAttrs a ("bx-border-region bx-border-" ++ (a.position.map Value.text).getD "None") []),
    lit "\n"] ++
  titleParts "            " a ++ sourceParts a.source a.content ++
  [lit "\n        ", close "div", lit "\n\n"]

/-- The region at a border position in parts, none when no area is there. -/
def regionAt (areas : List AreaView) (position : String) : List Part :=
  ((at? areas position).map regionParts).getD []

/-- The regions of a border layout in parts. -/
def borderParts (areas : List AreaView) : List Part :=
  regionAt areas "top" ++
  [lit "    ", start "div" (valued [("class", "bx-border-middle")]), lit "\n"] ++
  regionAt areas "left" ++ regionAt areas "center" ++ regionAt areas "right" ++
  [lit "    ", close "div", lit "\n"] ++
  regionAt areas "bottom"

/-- A box item in parts. -/
def boxParts (a : AreaView) : List Part :=
  [lit "    ", start "div" (areaAttrs a "bx-box-item" []), lit "\n"] ++
  titleParts "        " a ++ sourceParts a.source a.content ++
  [lit "\n    ", close "div", lit "\n"]

/-- A layout in parts: its element, holding the parts of its type. -/
def parts (l : LayoutView) : List Part :=
  [start "div" (rootAttrs l.id l.classes l.style l.data), lit "\n"] ++
  (if l.type == .str "tab" then tabParts l.areas
   else if l.type == .str "accordion" then l.areas.flatMap accordionParts
   else if l.type == .str "border" then borderParts l.areas
   else l.areas.flatMap boxParts) ++
  [close "div", lit "\n"]

set_option maxRecDepth 8000 in
theorem tabPart_eq (areas : List AreaView) : tabPart areas = writeAll (tabParts areas) := by
  have hheaders : ∀ p ∈ areas.zipIdx,
      "        <button type=\"button\" class=\"bx-tab-header" ++
          (if p.2 == 0 then " active" else "") ++ "\" data-tab-index=\"" ++ toString p.2 ++
          "\" role=\"tab\" aria-controls=\"" ++ Html.text p.1.id ++ "\" aria-selected=\"" ++
          (if p.2 == 0 then "true" else "false") ++ "\">" ++ escape p.1.title ++ "</button>\n" =
        writeAll (tabHeaderParts p) := by
    rintro ⟨a, i⟩ -
    simp (disch := decide) only [tabHeaderParts, writeAll_cons, writeAll_nil, write, Html.text,
        openTagText_valued, startTag, openTag, closeTagText, attrPairs_cons, attrPairs_nil,
        escape_of_all, escape_append, escape_ite, escape_toString, String.append_empty,
        String.append_assoc]
    rfl
  have hpanels : ∀ p ∈ areas.zipIdx,
      "        " ++ areaOpen p.1 (if p.2 == 0 then "bx-tab-panel active" else "bx-tab-panel") ++
          " role=\"tabpanel\">\n" ++ areaBody p.1 ++ "\n" ++ "        </div>\n" =
        writeAll (tabPanelParts p) := by
    rintro ⟨a, i⟩ -
    simp only [areaOpen_eq, areaBody, sourceBody_eq]
    simp (disch := decide) only [tabPanelParts, areaAttrs, writeAll_cons, writeAll_nil,
        writeAll_append, write, openTagText_valued, startTag, openTag, closeTagText, attrPairs_cons,
        attrPairs_nil, attrPairs_append, escape_of_all, String.append_empty, String.append_assoc]
    rfl
  unfold tabPart tabParts
  rw [List.map_congr_left hheaders, List.map_congr_left hpanels]
  simp (disch := decide) only [writeAll_flatMap, writeAll_cons, writeAll_nil, writeAll_append,
      write, openTagText_valued, startTag, openTag, closeTagText, attrPairs_cons, attrPairs_nil,
      escape_of_all, String.append_empty, String.append_assoc]
  rfl

set_option maxRecDepth 8000 in
theorem accordionPart_eq (areas : List AreaView) :
    accordionPart areas = writeAll (areas.flatMap accordionParts) := by
  rw [accordionPart, writeAll_flatMap]
  congr 1
  apply List.map_congr_left
  intro a _
  simp only [areaOpen_eq, areaBody, sourceBody_eq]
  simp (disch := decide) only [accordionParts, areaAttrs, writeAll_cons, writeAll_nil,
      writeAll_append, write, openTagText_valued, startTag, openTag, closeTagText, attrPairs_cons,
      attrPairs_nil, attrPairs_append, escape_of_all, escape_ite, String.append_empty,
      String.append_assoc]
  rfl

set_option maxRecDepth 8000 in
theorem region_eq (a : AreaView) : region a = writeAll (regionParts a) := by
  unfold region regionParts
  simp only [areaOpen_eq, areaBody, sourceBody_eq, titleLine_eq]
  simp (disch := decide) only [areaAttrs, writeAll_cons, writeAll_nil, writeAll_append, write,
      openTagText_valued, startTag, openTag, closeTagText, attrPairs_nil, attrPairs_append,
      String.append_empty, String.append_assoc]
  rfl

set_option maxRecDepth 8000 in
theorem borderPart_eq (areas : List AreaView) :
    borderPart areas = writeAll (borderParts areas) := by
  have hat (position : String) :
      ((at? areas position).map region).getD "" = writeAll (regionAt areas position) := by
    unfold regionAt
    cases at? areas position with
    | none => rfl
    | some a => exact region_eq a
  unfold borderPart borderParts
  simp only [hat]
  simp (disch := decide) only [writeAll_cons, writeAll_nil, writeAll_append, write,
      openTagText_valued, startTag, openTag, closeTagText, attrPairs_cons, attrPairs_nil,
      escape_of_all, String.append_empty, String.append_assoc]
  rfl

set_option maxRecDepth 8000 in
theorem boxPart_eq (areas : List AreaView) : boxPart areas = writeAll (areas.flatMap boxParts) := by
  rw [boxPart, writeAll_flatMap]
  congr 1
  apply List.map_congr_left
  intro a _
  simp only [areaOpen_eq, areaBody, sourceBody_eq, titleLine_eq]
  simp (disch := decide) only [boxParts, areaAttrs, writeAll_cons, writeAll_nil, writeAll_append,
      write, openTagText_valued, startTag, openTag, closeTagText, attrPairs_nil, attrPairs_append,
      String.append_empty, String.append_assoc]
  rfl

set_option maxRecDepth 8000 in
theorem render_eq (l : LayoutView) : l.render = writeAll l.parts := by
  unfold render parts rootAttrs rootPairs
  simp only [tabPart_eq, accordionPart_eq, borderPart_eq, boxPart_eq, styleAttr_eq]
  simp (disch := decide) only [writeAll_cons, writeAll_nil, writeAll_append, writeAll_ite, write,
      Html.text, openTagText_valued, startTag, openTag, closeTagText, attrPairs_cons, attrPairs_nil,
      attrPairs_append, escape_of_all, String.append_empty, String.append_assoc]
  rfl

/-! ### Clean layouts -/

/-- An area's element opened between fixed texts is clean when its data names are the area's. -/
theorem clean_areaOpen {a : AreaView} (ha : (a.data.map (·.1)).Sublist areaDataNames)
    (classes : String) {extra : List (String × String)}
    (hextra : (extra.map (·.1)).Sublist ["role"]) {pre post : String} (hpre : (lit pre).Sound)
    (hpost : (lit post).Sound) :
    Clean [lit pre, start "div" (areaAttrs a classes extra), lit post] := by
  simp only [Sound] at hpre hpost
  exact ⟨by simp [Sound, hpre, hpost, namesPlain_areaAttrs ha classes extra hextra]; decide, rfl,
    by simp [endsCR]⟩

section Clean

variable {areas : List AreaView}
  (hareas : ∀ a ∈ areas, (a.data.map (·.1)).Sublist areaDataNames ∧ Closed a.content)
include hareas

theorem clean_tabParts : Clean (tabParts areas) := by
  have hheader : ∀ p ∈ areas.zipIdx, Clean (tabHeaderParts p) := by
    rintro ⟨a, i⟩ -
    unfold tabHeaderParts
    exact ⟨by cases i <;> simp [Sound] <;> decide, rfl, by simp [endsCR]⟩
  have hpanel : ∀ p ∈ areas.zipIdx, Clean (tabPanelParts p) := by
    rintro ⟨a, i⟩ hp
    obtain ⟨hdata, hcontent⟩ := hareas a (List.fst_mem_of_mem_zipIdx hp)
    exact ((clean_areaOpen hdata _ (by simp) (by simp [Sound]) (by simp [Sound])).append
      (clean_sourceParts a.source hcontent)).append
      ⟨by simp [Sound]; decide, rfl, by simp [endsCR]⟩
  exact ((((⟨by simp [Sound]; decide, rfl, by simp [endsCR]⟩ : Clean [_, _, _]).append
    (Clean.flatMap hheader)).append ⟨by simp [Sound]; decide, rfl, by simp [endsCR]⟩).append
    (Clean.flatMap hpanel)).append ⟨by simp [Sound]; decide, rfl, by simp [endsCR]⟩

theorem clean_accordionParts : Clean (areas.flatMap accordionParts) := by
  refine Clean.flatMap fun a ha => ?_
  obtain ⟨hdata, hcontent⟩ := hareas a ha
  have hheader : Clean [start "div" (valued [("class", "bx-accordion-header"), ("role", "button"),
      ("aria-expanded", if a.collapsed then "false" else "true")]), Part.text a.title, close "div",
      lit "\n        ", start "div" (valued [("class", "bx-accordion-content")]), lit "\n"] :=
    ⟨by simp [Sound]; decide, rfl, by simp [endsCR]⟩
  exact (((clean_areaOpen hdata _ (by simp) (by simp [Sound]) (by simp [Sound])).append
    hheader).append (clean_sourceParts a.source hcontent)).append
    ⟨by simp [Sound]; decide, rfl, by simp [endsCR]⟩

theorem clean_regionParts {a : AreaView} (ha : a ∈ areas) : Clean (regionParts a) := by
  obtain ⟨hdata, hcontent⟩ := hareas a ha
  exact (((clean_areaOpen hdata _ (by simp) (by simp [Sound]) (by simp [Sound])).append
    (clean_titleParts (by simp [Sound]) a)).append (clean_sourceParts a.source hcontent)).append
    ⟨by simp [Sound]; decide, rfl, by simp [endsCR]⟩

theorem clean_borderParts : Clean (borderParts areas) := by
  have hat (position : String) : Clean (regionAt areas position) := by
    unfold regionAt
    cases hp : at? areas position with
    | none => exact Clean.nil
    | some a =>
      -- the area at a position is one of the areas
      have ha : a ∈ areas := List.mem_of_mem_filter (List.mem_of_getLast? hp)
      exact clean_regionParts hareas ha
  have hmid : Clean [lit "    ", start "div" (valued [("class", "bx-border-middle")]), lit "\n"] :=
    ⟨by simp [Sound]; decide, rfl, by simp [endsCR]⟩
  have hend : Clean [lit "    ", close "div", lit "\n"] :=
    ⟨by simp [Sound]; decide, rfl, by simp [endsCR]⟩
  unfold borderParts
  exact ((((((hat "top").append hmid).append (hat "left")).append (hat "center")).append
    (hat "right")).append hend).append (hat "bottom")

theorem clean_boxParts : Clean (areas.flatMap boxParts) := by
  refine Clean.flatMap fun a ha => ?_
  obtain ⟨hdata, hcontent⟩ := hareas a ha
  exact (((clean_areaOpen hdata _ (by simp) (by simp [Sound]) (by simp [Sound])).append
    (clean_titleParts (by simp [Sound]) a)).append (clean_sourceParts a.source hcontent)).append
    ⟨by simp [Sound]; decide, rfl, by simp [endsCR]⟩

end Clean

/-- A layout's parts are clean when its data names are distinct, plain `data-` names, and each
area's data names are the area's own and its content closed markup. -/
theorem clean_parts (l : LayoutView) (hdata : DataNames (l.data.map (·.1)))
    (hareas : ∀ a ∈ l.areas, (a.data.map (·.1)).Sublist areaDataNames ∧ Closed a.content) :
    Clean l.parts := by
  have hroot : Clean [start "div" (rootAttrs l.id l.classes l.style l.data), lit "\n"] :=
    ⟨by simp [Sound, namesPlain_rootAttrs _ _ _ hdata]; decide, rfl, by simp [endsCR]⟩
  refine (hroot.append ?_).append ⟨by simp [Sound]; decide, rfl, by simp [endsCR]⟩
  split_ifs
  · exact clean_tabParts hareas
  · exact clean_accordionParts hareas
  · exact clean_borderParts hareas
  · exact clean_boxParts hareas

end LayoutView

namespace GridView

/-- The names a column header writes as its own data pairs. -/
def headerDataNames : List String :=
  ["data-type", "data-sortable", "data-number-format", "data-date-format"]

/-- The attributes of a column's header cell. -/
def headerAttrs (c : ColumnView) : List (String × Option String) :=
  valued ([("class", c.headerClasses), ("data-column", c.name)] ++ c.headerData ++
    stylePair c.headerStyle)

theorem namesPlain_headerAttrs {c : ColumnView}
    (hc : (c.headerData.map (·.1)).Sublist headerDataNames) : NamesPlain (headerAttrs c) := by
  refine namesPlain_of_sublist ?_
    (by decide : PlainNames (["class", "data-column"] ++ headerDataNames ++ ["style"]))
  rw [headerAttrs, names_valued, List.map_append, List.map_append]
  exact ((List.Sublist.refl _).append hc).append (stylePair_names _)

/-- A column's header cell in parts. -/
def headerCellParts (c : ColumnView) : List Part :=
  [lit "                ", start "th" (headerAttrs c), Part.text c.header] ++
  (if c.sortable then [start "span" (valued [("class", "bx-grid-sort-indicator")]), close "span"]
   else []) ++
  [close "th", lit "\n"]

/-- The header row in parts. -/
def headParts (g : GridView) : List Part :=
  [lit "        ", start "thead" (valued [("class", "bx-grid-header")]), lit "\n            ",
    start "tr" (valued []), lit "\n"] ++
  (if g.selectMode != .str "none" then
    [lit "                ", start "th" (valued [("class", "bx-grid-select-header")])] ++
    (if g.selectMode == .str "multi" then
      [start "input" (valued [("type", "checkbox"), ("class", "bx-grid-select-all"),
        ("aria-label", "Select all rows")])]
     else []) ++
    [close "th", lit "\n"]
   else []) ++
  g.columns.flatMap headerCellParts ++
  [lit "            ", close "tr", lit "\n        ", close "thead", lit "\n"]

/-- A cell's link target, when it is truthy. -/
def targetPair : Option Value → List (String × String)
  | some t => if t.truthy then [("target", t.text)] else []
  | none => []

/-- The attributes of a cell's link: its address and its target, when that is truthy. -/
def linkAttrs (href : String) (target : Option Value) : List (String × Option String) :=
  valued ([("href", href)] ++ targetPair target)

theorem namesPlain_linkAttrs (href : String) (target : Option Value) :
    NamesPlain (linkAttrs href target) := by
  refine namesPlain_of_sublist ?_ (by decide : PlainNames ["href", "target"])
  rw [linkAttrs, names_valued, List.map_append]
  refine (List.Sublist.refl ["href"]).append ?_
  unfold targetPair
  split
  · split <;> simp
  · simp

/-- A cell's content in parts: an image, a link, or the text. -/
def contentParts (c : CellView) : List Part :=
  if c.type == .str "image" && !c.text.isEmpty then
    [start "img" (valued [("src", c.text), ("alt", "")])]
  else
    match c.href with
    | some h =>
      if h.isEmpty then [Part.text c.text]
      else [start "a" (linkAttrs h c.target), Part.text c.text, close "a"]
    | none => [Part.text c.text]

/-- The attributes of a body cell. -/
def cellAttrs (c : CellView) : List (String × Option String) :=
  valued ([("class", "bx-grid-cell"), ("data-column", c.column)] ++
    (if c.readonly then [("data-editable", "false")] else []) ++ stylePair c.style)

theorem namesPlain_cellAttrs (c : CellView) : NamesPlain (cellAttrs c) := by
  refine namesPlain_of_sublist ?_
    (by decide : PlainNames (["class", "data-column"] ++ ["data-editable"] ++ ["style"]))
  rw [cellAttrs, names_valued, List.map_append, List.map_append]
  refine ((List.Sublist.refl ["class", "data-column"]).append ?_).append (stylePair_names _)
  split <;> simp

/-- A body cell in parts. -/
def bodyCellParts (c : CellView) : List Part :=
  [lit "                ", start "td" (cellAttrs c)] ++ contentParts c ++ [close "td", lit "\n"]

/-- A row's selection cell in parts: a check box for many rows, a radio button for one. -/
def selectParts (g : GridView) (r : RowView) : List Part :=
  if g.selectMode == .str "multi" then
    [lit "                ", start "td" (valued [("class", "bx-grid-select-cell")]),
      start "input" (valued [("type", "checkbox"), ("class", "bx-grid-select"),
        ("value", toString r.index), ("aria-label", "Select row")]),
      close "td", lit "\n"]
  else if g.selectMode == .str "single" then
    [lit "                ", start "td" (valued [("class", "bx-grid-select-cell")]),
      start "input" (valued [("type", "radio"), ("class", "bx-grid-select"),
        ("name", g.name.text ++ "_select"), ("value", toString r.index),
        ("aria-label", "Select row")]),
      close "td", lit "\n"]
  else []

/-- A body row in parts. -/
def rowParts (g : GridView) (r : RowView) : List Part :=
  [lit "            ",
    start "tr" (valued [("class", "bx-grid-row"), ("data-row-index", toString r.index)]),
    lit "\n"] ++
  selectParts g r ++ r.cells.flatMap bodyCellParts ++
  [lit "            ", close "tr", lit "\n"]

/-- A page button in parts, with its classes, the page it asks for, whether it is enabled and
its label; a disabled button carries a bare `disabled` attribute. -/
def buttonParts (classes target : String) (enabled : Bool) (label : Part) : List Part :=
  [lit "        ",
    start "button" (valued [("type", "button"), ("class", classes), ("data-page", target)] ++
      (if enabled then [] else [("disabled", none)])),
    label, close "button", lit "\n"]

/-- The page links of a paged grid in parts. -/
def pageParts (pg : Page) : List Part :=
  [lit "    ",
    start "div" (valued [("class", "bx-grid-pagination"), ("data-page", toString pg.page),
      ("data-total-pages", toString pg.totalPages)]),
    lit "\n        ", start "span" (valued [("class", "bx-grid-page-info")]), Part.text pg.info,
    close "span", lit "\n"] ++
  buttonParts "bx-grid-page-btn bx-grid-page-prev" (toString ((pg.page : Int) - 1))
    pg.hasPrevious (lit "Previous") ++
  pg.links.flatMap (fun n =>
    buttonParts ("bx-grid-page-btn" ++ if n == pg.page then " bx-grid-page-current" else "")
      (toString n) true (Part.text (toString n))) ++
  buttonParts "bx-grid-page-btn bx-grid-page-next" (toString (pg.page + 1)) pg.hasNext
    (lit "Next") ++
  [lit "    ", close "div", lit "\n"]

/-- A grid in parts. -/
def parts (g : GridView) : List Part :=
  [start "div" (rootAttrs g.id g.classes g.style g.data), lit "\n    ",
    start "table" (valued [("class", "bx-grid-table")]), lit "\n"] ++
  (if g.showHeaders then headParts g else []) ++
  [lit "        ", start "tbody" (valued [("class", "bx-grid-body")]), lit "\n"] ++
  (if g.rows.isEmpty then
    (if g.hasQuery then
      [lit "            ", start "tr" (valued [("class", "bx-grid-empty-row")]),
        start "td" (valued [("class", "bx-grid-empty"), ("colspan", toString g.colspan)]),
        lit "No data available", close "td", close "tr", lit "\n"]
     else [])
   else g.rows.flatMap (rowParts g)) ++
  [lit "        ", close "tbody", lit "\n    ", close "table", lit "\n"] ++
  (match g.page with
   | some pg => pageParts pg
   | none => []) ++
  [close "div", lit "\n"]

set_option maxRecDepth 8000 in
theorem headerCell_eq (c : ColumnView) : headerCell c = writeAll (headerCellParts c) := by
  unfold headerCell headerCellParts headerAttrs styleAttr
  simp only [styleAttr_eq]
  simp (disch := decide) only [writeAll_cons, writeAll_nil, writeAll_append, writeAll_ite, write,
      openTagText_valued, startTag, openTag, closeTagText, attrPairs_cons, attrPairs_nil,
      attrPairs_append, escape_of_all, String.append_empty, String.append_assoc]
  rfl

set_option maxRecDepth 8000 in
theorem headerPart_eq (g : GridView) : headerPart g = writeAll (headParts g) := by
  have hcells : headerCell = fun c => writeAll (headerCellParts c) := funext headerCell_eq
  unfold headerPart headParts
  rw [hcells]
  simp (disch := decide) only [writeAll_flatMap, writeAll_cons, writeAll_nil, writeAll_append,
      writeAll_ite, write, openTagText_valued, startTag, openTag, closeTagText, attrPairs_cons,
      attrPairs_nil, escape_of_all, String.append_empty, String.append_assoc]
  rfl

set_option maxRecDepth 8000 in
theorem cellContent_eq (c : CellView) : cellContent c = writeAll (contentParts c) := by
  unfold cellContent contentParts
  -- an image, a link with or without a target, or the text
  split_ifs
  · simp (disch := decide) only [writeAll_cons, writeAll_nil, write, openTagText_valued, startTag,
        openTag, attrPairs_cons, attrPairs_nil, escape_of_all, String.append_empty,
        String.append_assoc]
    rfl
  · cases c.href with
    | none => simp only [writeAll_cons, writeAll_nil, write, String.append_empty]
    | some h =>
      dsimp only
      split_ifs
      · simp only [writeAll_cons, writeAll_nil, write, String.append_empty]
      · cases c.target with
        | none =>
          dsimp only
          simp (disch := decide) only [linkAttrs, targetPair, writeAll_cons, writeAll_nil, write,
              openTagText_valued, startTag, openTag, closeTagText, attrPairs_cons, attrPairs_nil,
              attrPairs_append, escape_of_all, String.append_empty, String.append_assoc]
          rfl
        | some t =>
          dsimp only
          simp (disch := decide) only [linkAttrs, targetPair, writeAll_cons, writeAll_nil, write,
              Html.text, openTagText_valued, startTag, openTag, closeTagText, attrPairs_cons,
              attrPairs_nil, attrPairs_append, attrPairs_ite, escape_of_all, String.append_empty,
              String.append_assoc]
          rfl

set_option maxRecDepth 8000 in
theorem bodyCell_eq (c : CellView) : bodyCell c = writeAll (bodyCellParts c) := by
  unfold bodyCell bodyCellParts cellAttrs styleAttr
  simp only [styleAttr_eq, cellContent_eq]
  simp (disch := decide) only [writeAll_cons, writeAll_nil, writeAll_append, write,
      openTagText_valued, startTag, openTag, closeTagText, attrPairs_cons, attrPairs_nil,
      attrPairs_append, attrPairs_ite, escape_of_all, String.append_empty, String.append_assoc]
  rfl

set_option maxRecDepth 8000 in
theorem rowPart_eq (g : GridView) (r : RowView) : rowPart g r = writeAll (rowParts g r) := by
  have hcells : bodyCell = fun c => writeAll (bodyCellParts c) := funext bodyCell_eq
  unfold rowPart rowParts selectParts
  rw [hcells]
  simp (disch := decide) only [writeAll_flatMap, writeAll_cons, writeAll_nil, writeAll_append,
      writeAll_ite, write, Html.text, openTagText_valued, startTag, openTag, closeTagText,
      attrPairs_cons, attrPairs_nil, escape_of_all, escape_append, escape_toString,
      String.append_empty, String.append_assoc]
  rfl

set_option maxRecDepth 8000 in
theorem pagePart_eq (pg : Page) : pagePart pg = writeAll (pageParts pg) := by
  have hlinks : ∀ n ∈ pg.links,
      "        <button type=\"button\" class=\"bx-grid-page-btn" ++
        (if n == pg.page then " bx-grid-page-current" else "") ++ "\" data-page=\"" ++ toString n ++
        "\">" ++ toString n ++ "</button>\n" =
      writeAll (buttonParts
        ("bx-grid-page-btn" ++ if n == pg.page then " bx-grid-page-current" else "")
        (toString n) true (Part.text (toString n))) := by
    intro n _
    simp (disch := decide) only [buttonParts, openTagText, attrItems_append, attrItems_valued,
        attrItems_ite, attrItems_nil, writeAll_cons, writeAll_nil, write, closeTagText,
        attrPairs_cons, attrPairs_nil, escape_of_all, escape_append, escape_ite, escape_toString,
        String.append_empty, String.append_assoc]
    rfl
  unfold pagePart pageParts
  rw [List.map_congr_left hlinks]
  simp (disch := decide) only [writeAll_flatMap, buttonParts, openTagText, attrItems_append,
      attrItems_valued, attrItems_ite, attrItems_nil, writeAll_cons, writeAll_nil, writeAll_append,
      write, closeTagText, attrPairs_cons, attrPairs_nil, escape_of_all, escape_append, escape_ite,
      escape_toString, escape_intToString, String.append_empty, String.append_assoc]
  rfl

set_option maxRecDepth 8000 in
theorem render_eq (g : GridView) : g.render = writeAll g.parts := by
  have hrows : rowPart g = fun r => writeAll (rowParts g r) := funext (rowPart_eq g)
  unfold render parts rootAttrs rootPairs styleAttr
  rw [hrows]
  simp only [styleAttr_eq, headerPart_eq, pagePart_eq]
  cases g.page with
  | none =>
    simp (disch := decide) only [writeAll_flatMap, writeAll_cons, writeAll_nil, writeAll_append,
        writeAll_ite, write, Html.text, openTagText_valued, startTag, openTag, closeTagText,
        attrPairs_cons, attrPairs_nil, attrPairs_append, escape_of_all, escape_toString,
        String.append_empty, String.append_assoc]
    rfl
  | some pg =>
    simp (disch := decide) only [writeAll_flatMap, writeAll_cons, writeAll_nil, writeAll_append,
        writeAll_ite, write, Html.text, openTagText_valued, startTag, openTag, closeTagText,
        attrPairs_cons, attrPairs_nil, attrPairs_append, escape_of_all, escape_toString,
        String.append_empty, String.append_assoc]
    rfl

/-! ### Clean grids -/

theorem clean_headerCellParts {c : ColumnView}
    (hc : (c.headerData.map (·.1)).Sublist headerDataNames) : Clean (headerCellParts c) := by
  have hth := namesPlain_headerAttrs hc
  unfold headerCellParts
  split
  · exact ⟨by simp [Sound, hth]; decide, rfl, by simp [endsCR]⟩
  · exact ⟨by simp [Sound, hth]; decide, rfl, by simp [endsCR]⟩

theorem clean_headParts {g : GridView}
    (hcols : ∀ c ∈ g.columns, (c.headerData.map (·.1)).Sublist headerDataNames) :
    Clean (headParts g) := by
  unfold headParts
  refine ((⟨by simp [Sound]; decide, rfl, by simp [endsCR]⟩ : Clean [_, _, _, _, _]).append
    ?_).append (Clean.flatMap fun c hc => clean_headerCellParts (hcols c hc)) |>.append
    ⟨by simp [Sound]; decide, rfl, by simp [endsCR]⟩
  -- the selection header: a check box for many rows, an empty cell for one, none without
  split_ifs
  · exact ⟨by simp [Sound]; decide, rfl, by simp [endsCR]⟩
  · exact ⟨by simp [Sound]; decide, rfl, by simp [endsCR]⟩
  · exact Clean.nil

theorem clean_bodyCellParts (c : CellView) : Clean (bodyCellParts c) := by
  have htd := namesPlain_cellAttrs c
  have hlink := namesPlain_linkAttrs
  unfold bodyCellParts contentParts
  -- an image, a link, or the text, each between the cell's tags
  split_ifs
  · exact ⟨by simp [Sound, htd]; decide, rfl, by simp [endsCR]⟩
  · cases c.href with
    | none => exact ⟨by simp [Sound, htd]; decide, rfl, by simp [endsCR]⟩
    | some h =>
      dsimp only
      split_ifs
      · exact ⟨by simp [Sound, htd]; decide, rfl, by simp [endsCR]⟩
      · exact ⟨by simp [Sound, htd, hlink]; decide, rfl, by simp [endsCR]⟩

theorem clean_rowParts (g : GridView) (r : RowView) : Clean (rowParts g r) := by
  have hselect : Clean (selectParts g r) := by
    unfold selectParts
    split_ifs
    · exact ⟨by simp [Sound]; decide, rfl, by simp [endsCR]⟩
    · exact ⟨by simp [Sound]; decide, rfl, by simp [endsCR]⟩
    · exact Clean.nil
  unfold rowParts
  exact (((⟨by simp [Sound]; decide, rfl, by simp [endsCR]⟩ : Clean [_, _, _]).append
    hselect).append (Clean.flatMap fun c _ => clean_bodyCellParts c)).append
    ⟨by simp [Sound]; decide, rfl, by simp [endsCR]⟩

theorem clean_buttonParts (classes target : String) (enabled : Bool) {label : Part}
    (hlabel : label.Sound) : Clean (buttonParts classes target enabled label) := by
  refine ⟨fun p hp => ?_, by cases label <;> rfl, by simp [buttonParts, endsCR]⟩
  simp only [buttonParts, List.mem_cons, List.not_mem_nil, or_false] at hp
  rcases hp with rfl | rfl | rfl | rfl | rfl
  · simp [Sound]
  · cases enabled <;> simp [Sound, NamesPlain, valued] <;> decide
  · exact hlabel
  · exact (by decide : TagName "button")
  · simp [Sound]

theorem clean_pageParts (pg : Page) : Clean (pageParts pg) := by
  unfold pageParts
  exact ((((⟨by simp [Sound]; decide, rfl, by simp [endsCR]⟩ :
      Clean [_, _, _, _, _, _, _]).append (clean_buttonParts _ _ _ (by simp [Sound]))).append
    (Clean.flatMap fun n _ =>
      clean_buttonParts _ _ _ (show (Part.text (toString n)).Sound from trivial))).append
    (clean_buttonParts _ _ _ (by simp [Sound]))).append
    ⟨by simp [Sound]; decide, rfl, by simp [endsCR]⟩

/-- A grid's parts are clean when its data names are distinct, plain `data-` names and each
column's header data names are a column's own. -/
theorem clean_parts (g : GridView) (hdata : DataNames (g.data.map (·.1)))
    (hcols : ∀ c ∈ g.columns, (c.headerData.map (·.1)).Sublist headerDataNames) :
    Clean g.parts := by
  have hroot : Clean [start "div" (rootAttrs g.id g.classes g.style g.data), lit "\n    ",
      start "table" (valued [("class", "bx-grid-table")]), lit "\n"] :=
    ⟨by simp [Sound, namesPlain_rootAttrs _ _ _ hdata]; decide, rfl, by simp [endsCR]⟩
  unfold parts
  refine ((((((hroot.append ?_).append ⟨by simp [Sound]; decide, rfl, by simp [endsCR]⟩).append
    ?_).append ⟨by simp [Sound]; decide, rfl, by simp [endsCR]⟩).append ?_).append
    ⟨by simp [Sound]; decide, rfl, by simp [endsCR]⟩)
  · split_ifs
    · exact clean_headParts hcols
    · exact Clean.nil
  · -- the rows, or the note that a query gave none
    split_ifs
    · exact ⟨by simp [Sound]; decide, rfl, by simp [endsCR]⟩
    · exact Clean.nil
    · exact Clean.flatMap fun r _ => clean_rowParts g r
  · cases g.page with
    | none => exact Clean.nil
    | some pg => exact clean_pageParts pg

end GridView

end UiTags
