import UiTags.Proofs.Slots
import UiTags.Proofs.LogBlind

/-!
# Documents whose texts are slots

To follow the texts of a document through a session, write the session with its texts as
slots. A slot frame is a frame whose written texts, and the contents of the areas registered
into it, are pieces; a slot document holds slot frames, and its own text as pieces. Filled by
texts, one per slot, each is a frame or a document of the machine.

The machine decides its steps on the tags, the attributes and the open frames, and on whether
bodies are blank; it never looks into a text that is not blank. So an event on a slot document
filled by texts that are not blank succeeds for every such filling or for none, and leaves one
slot document filled. A closed frame writes markup holding the pieces of its body or of its
areas once each; for a border layout, once its areas are at distinct border positions.

Main results:

- `SlotDoc.step_fill`: one event on a filled slot document is, whatever fills the slots, the
  event on one slot document, and it keeps every slot once.
- `SlotDoc.exec_fill`: so is a run of events that does not fail, in a session whose border
  layouts never take a position twice.
-/

namespace UiTags

/-! ## Slot frames -/

/-- A frame whose written texts, and the contents of the areas registered into it, are
pieces. -/
structure SlotFrame where
  tag : String
  kind : FrameKind
  id : Value
  attrs : Attrs
  columns : List Column := []
  rows : List Row := []
  areas : List (Area × List Piece) := []
  body : List (List Piece) := []

namespace SlotFrame

/-- The frame it is when slot `i` holds `g i`. -/
def fill (g : Nat → String) (s : SlotFrame) : Frame where
  tag := s.tag
  kind := s.kind
  id := s.id
  attrs := s.attrs
  columns := s.columns
  rows := s.rows
  areas := s.areas.map fun x => { x.1 with content := Piece.spell g x.2 }
  body := s.body.map (Piece.spell g)

/-- Its body as pieces, in order. -/
def pieces (s : SlotFrame) : List Piece := s.body.flatten

/-- An attribute, null counting as absent. -/
def get? (s : SlotFrame) (name : String) : Option Value := s.attrs.get? name

/-- The slots it holds: those of its body, then those of its areas. -/
def slots (s : SlotFrame) : List Nat :=
  Piece.slots s.pieces ++ s.areas.flatMap fun x => Piece.slots x.2

section Fill

variable (g : Nat → String) (s : SlotFrame)

@[simp] theorem tag_fill : (s.fill g).tag = s.tag := rfl

@[simp] theorem kind_fill : (s.fill g).kind = s.kind := rfl

@[simp] theorem id_fill : (s.fill g).id = s.id := rfl

@[simp] theorem attrs_fill : (s.fill g).attrs = s.attrs := rfl

@[simp] theorem get?_fill (name : String) : (s.fill g).get? name = s.get? name := rfl

@[simp] theorem holds_fill (name : String) : (s.fill g).holds name = s.attrs.holds name := rfl

@[simp] theorem areas_fill :
    (s.fill g).areas = s.areas.map fun x => { x.1 with content := Piece.spell g x.2 } := rfl

theorem join_map_spell (B : List (List Piece)) :
    String.join (B.map (Piece.spell g)) = Piece.spell g B.flatten := by
  induction B with
  | nil => rfl
  | cons P B ih => simp [String.join_cons, ih]

/-- The body filled out is the pieces of the body spelled. -/
theorem content_fill : (s.fill g).content = Piece.spell g s.pieces :=
  join_map_spell g s.body

end Fill

theorem isBlankText_content_fill {g : Nat → String} (hg : Filling g) (s : SlotFrame) :
    Text.isBlankText (s.fill g).content = s.pieces.all Piece.blank := by
  rw [content_fill, isBlankText_spell hg]

/-- A frame whose body is blank whatever fills it, and that holds no area, is one frame
whatever fills the slots. -/
theorem fill_eq_of_blank {s : SlotFrame} (hb : s.pieces.all Piece.blank = true)
    (ha : s.areas = []) (g g' : Nat → String) : s.fill g = s.fill g' := by
  have hbody : s.body.map (Piece.spell g) = s.body.map (Piece.spell g') := by
    refine List.map_congr_left fun P hP => Piece.spell_eq_of_blank ?_ g g'
    rw [pieces, List.all_eq_true] at hb
    rw [List.all_eq_true]
    exact fun p hp => hb p (List.mem_flatten.2 ⟨P, hP, hp⟩)
  simp only [fill, ha, hbody, List.map_nil]

/-! ### Registering into a parent -/

/-- What a closed child frame adds to its parent: a column, a row, or an area whose content is
the child's body as pieces. -/
def adopt (f p : SlotFrame) : SlotFrame :=
  match f.tag with
  | "gridcolumn" =>
    let name := (f.get? "name").getD .null
    { p with columns := p.columns ++
      [{ name := name.text, header := ((f.get? "header").getD name).text,
         index := p.columns.length, attrs := f.attrs }] }
  | "gridrow" =>
    let data := match (f.get? "data").getD .null with
      | .obj fs => fs
      | _ => []
    { p with rows := p.rows ++ [{ index := p.rows.length, data }] }
  | _ =>
    { p with areas := p.areas ++
      [({ id := f.id, index := p.areas.length, title := f.get? "title",
          position := f.get? "position", content := "", attrs := f.attrs }, f.pieces)] }

theorem adopt_fill (g : Nat → String) (f p : SlotFrame) :
    Document.adopt (f.fill g) (p.fill g) = (adopt f p).fill g := by
  unfold Document.adopt adopt
  by_cases h₁ : f.tag = "gridcolumn"
  · simp only [tag_fill, h₁]
    rfl
  · by_cases h₂ : f.tag = "gridrow"
    · simp only [tag_fill, h₂]
      rfl
    · -- an area: its content is the child's body filled out
      simp only [tag_fill, id_fill, attrs_fill, get?_fill, content_fill, areas_fill,
        List.length_map]
      simp [fill]

/-- The slots a parent holds once a child registered into it: the child's body, when the child
is an area. -/
theorem slots_adopt (f p : SlotFrame)
    (hgrid : f.tag = "gridcolumn" ∨ f.tag = "gridrow" → Piece.slots f.pieces = []) :
    (adopt f p).slots.Perm (p.slots ++ Piece.slots f.pieces) := by
  unfold adopt
  by_cases h₁ : f.tag = "gridcolumn"
  · simp only [h₁, hgrid (.inl h₁), List.append_nil]
    exact List.Perm.refl _
  · by_cases h₂ : f.tag = "gridrow"
    · simp only [h₂, hgrid (.inr h₂), List.append_nil]
      exact List.Perm.refl _
    · simp only [slots, List.flatMap_append, List.flatMap_cons, List.flatMap_nil,
        List.append_nil, List.append_assoc]
      exact List.Perm.refl _

/-- Change the innermost frame of a kind. -/
def updateNearest (k : FrameKind) (h : SlotFrame → SlotFrame) : List SlotFrame → List SlotFrame
  | [] => []
  | s :: ss => if s.kind == k then h s :: ss else s :: updateNearest k h ss

theorem updateNearest_fill (g : Nat → String) (k : FrameKind) (f : SlotFrame) :
    ∀ ss : List SlotFrame,
      Document.updateNearest k (Document.adopt (f.fill g)) (ss.map (fill g)) =
        (updateNearest k (adopt f) ss).map (fill g)
  | [] => rfl
  | s :: ss => by
    unfold Document.updateNearest updateNearest
    by_cases hk : (s.kind == k) = true
    · simp only [List.map_cons, kind_fill, hk, if_true, adopt_fill]
    · simp only [List.map_cons, kind_fill, hk, Bool.false_eq_true, if_false,
        updateNearest_fill g k f ss]

/-- Changing the innermost frame of a kind, when there is one, changes the slots the frames
hold as the change does. -/
theorem slots_updateNearest {k : FrameKind} {h : SlotFrame → SlotFrame} {X : List Nat}
    (hh : ∀ p, (h p).slots.Perm (p.slots ++ X)) :
    ∀ {ss : List SlotFrame}, (ss.find? (·.kind == k)).isSome →
      ((updateNearest k h ss).flatMap slots).Perm (ss.flatMap slots ++ X)
  | [], hex => by cases hex
  | s :: ss, hex => by
    unfold updateNearest
    by_cases hk : (s.kind == k) = true
    · simp only [hk, if_true, List.flatMap_cons]
      calc List.Perm ((h s).slots ++ ss.flatMap slots) ((s.slots ++ X) ++ ss.flatMap slots) :=
            (hh s).append_right _
        _ = s.slots ++ (X ++ ss.flatMap slots) := List.append_assoc _ _ _
        List.Perm _ (s.slots ++ (ss.flatMap slots ++ X)) := List.perm_append_comm.append_left _
        _ = s.slots ++ ss.flatMap slots ++ X := (List.append_assoc _ _ _).symm
    · have hex' : (ss.find? (·.kind == k)).isSome := by simpa [hk] using hex
      simp only [hk, Bool.false_eq_true, if_false, List.flatMap_cons, List.append_assoc]
      exact (slots_updateNearest hh hex').append_left _

/-! ### The checks a start makes -/

theorem nearest?_fill (g : Nat → String) (ss : List SlotFrame) (k : FrameKind) :
    Document.nearest? (ss.map (fill g)) k = (ss.find? (·.kind == k)).map (fill g) := by
  unfold Document.nearest?
  rw [List.find?_map]
  rfl

theorem any_position_fill (g : Nat → String) (s : SlotFrame) (p : Option Value) :
    (s.fill g).areas.any (·.position == p) = s.areas.any (·.1.position == p) := by
  simp [List.any_map, Function.comp_def]

/-- The area check reads the positions of the areas, not their contents. -/
theorem checkArea_fill (ss : List SlotFrame) (attrs : Attrs) (g g' : Nat → String) :
    Document.checkArea (ss.map (fill g)) attrs = Document.checkArea (ss.map (fill g')) attrs := by
  unfold Document.checkArea
  rw [nearest?_fill, nearest?_fill]
  cases ss.find? (·.kind == .layout) with
  | none => rfl
  | some s => simp only [Option.map_some, get?_fill, any_position_fill]

theorem checkStart_fill (ss : List SlotFrame) (tag : String) (attrs : Attrs) (hasBody : Bool)
    (g g' : Nat → String) :
    Document.checkStart (ss.map (fill g)) tag attrs hasBody =
      Document.checkStart (ss.map (fill g')) tag attrs hasBody := by
  unfold Document.checkStart
  rw [checkArea_fill ss attrs g g']

/-- A start checks the open frames alike whatever fills their slots. -/
theorem startChecks_fill (ss : List SlotFrame) (tag : String) (raw : Attrs) (hasBody : Bool)
    (g g' : Nat → String) :
    Document.startChecks (ss.map (fill g)) tag raw hasBody =
      Document.startChecks (ss.map (fill g')) tag raw hasBody := by
  simp only [Document.startChecks, Document.parentCheck, nearest?_fill, Option.isNone_map,
    checkStart_fill ss _ _ _ g g']

end SlotFrame

/-! ## What a closed frame writes -/

namespace Output

theorem ofFrame_eq_ok {c : Config} {f : Frame} {m sc : String} {ml sl : List LogLine}
    (hm : markupOf c f = .ok (m, ml)) (hs : scriptOf c f = .ok (sc, sl)) :
    ofFrame c f = .ok { markup := m, script := sc, log := ml ++ sl ++ report f sc } := by
  unfold ofFrame
  rw [hm, hs]
  rfl

theorem layoutWired_fill (s : SlotFrame) (g g' : Nat → String) :
    layoutWired (s.fill g) = layoutWired (s.fill g') := by
  simp [layoutWired, Output.attr, List.any_map, Function.comp_def]

/-- The script of a closed frame reads neither its body nor the contents of its areas. -/
theorem scriptOf_fill (c : Config) (s : SlotFrame) (g g' : Nat → String) :
    scriptOf c (s.fill g) = scriptOf c (s.fill g') := by
  unfold scriptOf
  rw [layoutWired_fill s g g']
  rfl

end Output

attribute [ext] LayoutView PodView DivView

/-- The view of a layout reads the frame's id, attributes and areas. -/
theorem LayoutView.ofFrame_congr {f f' : Frame} (hid : f.id = f'.id)
    (hattrs : f.attrs = f'.attrs) :
    LayoutView.ofFrame f = { LayoutView.ofFrame f' with areas := (LayoutView.ofFrame f).areas } := by
  -- field by field; the tests of attributes differ only in how their decisions are written
  apply LayoutView.ext <;> simp only [LayoutView.ofFrame, Frame.get?, Frame.holds, hid, hattrs]
  rfl

/-- The view of a pod reads the frame's id, attributes and body. -/
theorem PodView.ofFrame_congr {f f' : Frame} (hid : f.id = f'.id) (hattrs : f.attrs = f'.attrs) :
    PodView.ofFrame f = { PodView.ofFrame f' with content := f.content } := by
  apply PodView.ext <;> simp only [PodView.ofFrame, Frame.get?, hid, hattrs]

/-- The view of a div reads the frame's id, attributes and body. -/
theorem DivView.ofFrame_congr {f f' : Frame} (hid : f.id = f'.id) (hattrs : f.attrs = f'.attrs) :
    DivView.ofFrame f = { DivView.ofFrame f' with content := f.content } := by
  apply DivView.ext <;> simp only [DivView.ofFrame, Frame.get?, hid, hattrs]
  rfl

namespace SlotFrame

/-- A closed frame writes, whatever fills the slots, the text that pieces with slots `sl`
spell. -/
def Writes (c : Config) (s : SlotFrame) (sl : List Nat) : Prop :=
  ∃ Q, Piece.slots Q = sl ∧
    ∀ g, Filling g → ∃ o, Output.ofFrame c (s.fill g) = .ok o ∧ o.text = Piece.spell g Q

variable {c : Config} {s : SlotFrame}

/-- Markup filled out by pieces, followed by a script, is written by those pieces and the
script. -/
theorem writes_of_spells {m : (Nat → String) → String} {sl : List Nat}
    (hm : ∀ g, Output.markupOf c (s.fill g) = .ok (m g, [])) (g₀ : Nat → String)
    (hs : ∃ sc, Output.scriptOf c (s.fill g₀) = .ok sc) (hsp : Spells m sl) :
    Writes c s sl := by
  obtain ⟨sc, hsc⟩ := hs
  obtain ⟨Q, hQ, hfill⟩ := hsp
  refine ⟨Q ++ [.lit sc.1], by simp [hQ], fun g hg => ⟨_, Output.ofFrame_eq_ok (hm g)
    ((Output.scriptOf_fill c s g g₀).trans hsc), ?_⟩⟩
  simp [Output.text, hfill g hg]

/-- A frame that is one frame whatever fills the slots writes what it writes for one filling. -/
theorem writes_of_fill_eq (hs : ∀ g g', s.fill g = s.fill g') {g₀ : Nat → String} {o : Output}
    (ho : Output.ofFrame c (s.fill g₀) = .ok o) : Writes c s [] :=
  ⟨[.lit o.text], rfl, fun g _ => ⟨o, by rw [hs g g₀, ho], by simp⟩⟩

/-- A layout writes the areas it shows. -/
theorem writes_layout (ht : s.tag = "layout") :
    Writes c s (LayoutView.shownSlots ((s.get? "type").getD .null)
      (s.areas.map fun x => (LayoutView.area x.1 ((s.get? "type").getD .null), x.2))) := by
  -- the view of the layout filled out is one view with its areas filled out
  have hview : ∀ g, LayoutView.ofFrame (s.fill g) =
      { LayoutView.ofFrame (s.fill fun _ => "") with
        areas := LayoutView.filled g (s.areas.map fun x =>
          (LayoutView.area x.1 ((s.get? "type").getD .null), x.2)) } := by
    intro g
    have hareas : (LayoutView.ofFrame (s.fill g)).areas = LayoutView.filled g
        (s.areas.map fun x => (LayoutView.area x.1 ((s.get? "type").getD .null), x.2)) := by
      simp [LayoutView.filled, Function.comp_def]
    rw [@LayoutView.ofFrame_congr (s.fill g) (s.fill fun _ => "") rfl rfl, hareas]
  refine writes_of_spells (fun g => by simp only [Output.markupOf, tag_fill, ht, hview g])
    (fun _ => "") ?_
    (LayoutView.render_spells (LayoutView.ofFrame (s.fill fun _ => "")) _)
  cases hsc : Output.scriptOf c (s.fill fun _ => "") with
  | ok sc => exact ⟨sc, rfl⟩
  | error e => simp [Output.scriptOf, ht] at hsc

/-- A pod writes its body. -/
theorem writes_pod (ht : s.tag = "pod") : Writes c s (Piece.slots s.pieces) := by
  have hview : ∀ g, PodView.ofFrame (s.fill g) =
      { PodView.ofFrame (s.fill fun _ => "") with content := Piece.spell g s.pieces } := by
    intro g
    rw [← content_fill]
    exact PodView.ofFrame_congr rfl rfl
  refine writes_of_spells (fun g => by simp only [Output.markupOf, tag_fill, ht, hview g])
    (fun _ => "") ?_
    (PodView.render_spells (PodView.ofFrame (s.fill fun _ => "")) s.pieces)
  cases hsc : Output.scriptOf c (s.fill fun _ => "") with
  | ok sc => exact ⟨sc, rfl⟩
  | error e => simp [Output.scriptOf, ht] at hsc

/-- A div writes its body, or a loading note in its place. -/
theorem writes_div (ht : s.tag = "div") :
    Writes c s (if (DivView.ofFrame (s.fill fun _ => "")).loading then []
      else Piece.slots s.pieces) := by
  have hview : ∀ g, DivView.ofFrame (s.fill g) =
      { DivView.ofFrame (s.fill fun _ => "") with content := Piece.spell g s.pieces } := by
    intro g
    rw [← content_fill]
    exact DivView.ofFrame_congr rfl rfl
  refine writes_of_spells (fun g => by simp only [Output.markupOf, tag_fill, ht, hview g])
    (fun _ => "") ?_
    (DivView.render_spells (DivView.ofFrame (s.fill fun _ => "")) s.pieces)
  cases hsc : Output.scriptOf c (s.fill fun _ => "") with
  | ok sc => exact ⟨sc, rfl⟩
  | error e =>
    simp only [Output.scriptOf, tag_fill, ht] at hsc
    split at hsc <;> cases hsc

/-! ### The tags whose frames write -/

/-- A tag of the table that registers into no parent and is neither a pod nor a div refuses a
body. -/
theorem bodyless_of_table : ∀ td ∈ TagDef.all, Document.childOf? td.name = none →
    td.name ≠ "pod" → td.name ≠ "div" → (Document.bodyless? td.name).isSome := by
  decide +kernel

/-- Only the layout tag opens a layout frame. -/
theorem layout_of_table : ∀ td ∈ TagDef.all, td.frame = .layout → td.name = "layout" := by
  decide +kernel

/-- The layout tag opens a layout frame. -/
theorem table_of_layout : ∀ td ∈ TagDef.all, td.name = "layout" → td.frame = .layout := by
  decide +kernel

/-- A div that loads its content is bound. -/
theorem DivView.holds_of_loading {f : Frame} (h : (DivView.ofFrame f).loading = true) :
    f.holds "bind" = true := by
  simp only [DivView.ofFrame, Bool.and_eq_true] at h
  obtain ⟨hb, -⟩ := h
  simp only [Frame.holds, Attrs.holds, Frame.get?] at hb ⊢
  cases hv : f.attrs.get? "bind" with
  | none => simp [hv] at hb
  | some v => simpa [hv, Option.filter] using hb

theorem areaSlots_map_area (xs : List (Area × List Piece)) (t : Value) :
    LayoutView.areaSlots (xs.map fun x => (LayoutView.area x.1 t, x.2)) =
      xs.flatMap fun x => Piece.slots x.2 := by
  simp [LayoutView.areaSlots, List.flatMap_map]

/-- A frame whose tag takes no body, and whose body is not refused, has a blank body. -/
theorem blank_of_refuses {s : SlotFrame} {g : Nat → String} (hg : Filling g)
    (hr : Document.refusesBody (s.fill g) = false) (hb : (Document.bodyless? s.tag).isSome) :
    s.pieces.all Piece.blank = true := by
  simpa only [Document.refusesBody, Document.blankBody, isBlankText_content_fill hg, tag_fill,
    hb, Bool.true_or, Bool.and_true, Bool.not_eq_false'] using hr

/-- A closed frame that writes, writes each slot it holds once: a pod or a div its body, a
layout the areas it shows, every other tag nothing, as it refuses a body. -/
theorem writes_closed {c : Config} {s : SlotFrame} {g₀ : Nat → String} (hg₀ : Filling g₀)
    (hkind : ∃ td ∈ TagDef.all, td.name = s.tag ∧ td.frame = s.kind)
    (hareas : s.areas ≠ [] → s.kind = .layout)
    (hborder : s.kind = .layout → s.get? "type" = some (.str "border") →
      (s.areas.map (·.1.position)).Nodup ∧ ∀ x ∈ s.areas, Document.OnBorder x.1.position)
    (hchild : Document.childOf? s.tag = none)
    (hrefuse : Document.refusesBody (s.fill g₀) = false)
    {o : Output} (ho : Output.ofFrame c (s.fill g₀) = .ok o) :
    ∃ sl, sl.Perm s.slots ∧ Writes c s sl := by
  obtain ⟨td, htd, hname, hframe⟩ := hkind
  -- a frame that is refused no body but takes none has a blank body
  have hblank : (Document.bodyless? s.tag).isSome → s.pieces.all Piece.blank :=
    blank_of_refuses hg₀ hrefuse
  have hnone : s.tag ≠ "layout" → s.areas = [] := by
    intro hl
    cases ha : s.areas with
    | nil => rfl
    | cons x xs =>
      exact absurd (hname.symm.trans
        (layout_of_table td htd (hframe.trans (hareas (by simp [ha]))))) hl
  by_cases hl : s.tag = "layout"
  · -- a layout takes no body and shows its areas
    have hpieces : Piece.slots s.pieces = [] :=
      Piece.slots_eq_nil_of_blank (hblank (by simp [hl, Document.bodyless?]))
    refine ⟨_, ?_, writes_layout hl⟩
    rw [slots, hpieces, List.nil_append, LayoutView.shownSlots]
    split
    · -- a border layout shows the area at each border position
      rename_i htype
      have htype' : s.get? "type" = some (.str "border") := by
        rw [beq_iff_eq] at htype
        cases hv : s.get? "type" with
        | none => simp [hv] at htype
        | some v => simpa [hv] using htype
      have hk : s.kind = .layout := hframe ▸ table_of_layout td htd (hname.trans hl)
      obtain ⟨hnd, hon⟩ := hborder hk htype'
      rw [← areaSlots_map_area s.areas ((s.get? "type").getD .null)]
      refine LayoutView.borderSlots_perm (by simpa [List.map_map, Function.comp_def] using hnd) ?_
      intro x hx
      obtain ⟨y, hy, rfl⟩ := List.mem_map.1 hx
      exact hon y hy
    · rw [areaSlots_map_area]
  by_cases hp : s.tag = "pod"
  · refine ⟨_, ?_, writes_pod hp⟩
    rw [slots, hnone (by rw [hp]; decide)]
    simp
  by_cases hd : s.tag = "div"
  · refine ⟨_, ?_, writes_div hd⟩
    rw [slots, hnone (by rw [hd]; decide)]
    split
    · -- a div that loads its content is bound, so its body is blank
      rename_i hload
      have hbind : s.attrs.holds "bind" = true :=
        DivView.holds_of_loading (f := s.fill fun _ => "") hload
      simp only [Document.refusesBody, Document.blankBody, isBlankText_content_fill hg₀,
        tag_fill, holds_fill, hd, hbind] at hrefuse
      have hb : s.pieces.all Piece.blank = true := by simpa [Document.bodyless?] using hrefuse
      simp [Piece.slots_eq_nil_of_blank hb]
    · simp
  · -- any other tag takes no body and holds no area: it writes one text
    have hb := hblank (hname ▸ bodyless_of_table td htd (hname ▸ hchild) (hname ▸ hp) (hname ▸ hd))
    refine ⟨[], ?_, writes_of_fill_eq (fill_eq_of_blank hb (hnone hl)) ho⟩
    simp [slots, Piece.slots_eq_nil_of_blank hb, hnone hl]

end SlotFrame

/-! ## Slot documents -/

/-- A document whose own text and open frames hold pieces, rendering with the packaged
templates. -/
structure SlotDoc where
  config : Config
  ids : IdSource
  frames : List SlotFrame := []
  out : List Piece := []

/-- An event whose written text is a piece. -/
inductive SlotEvent where
  | start (tag : String) (attrs : Attrs) (hasBody : Bool)
  | write (p : Piece)
  | close (tag : String)
  | finish

namespace SlotEvent

/-- The event it is when slot `i` holds `g i`. -/
def fill (g : Nat → String) : SlotEvent → Event
  | start tag attrs hasBody => .start tag attrs hasBody
  | write p => .write (p.fill g)
  | close tag => .close tag
  | finish => .finish

/-- The slot it writes, if it writes one. -/
def slots : SlotEvent → List Nat
  | write p => Piece.slots [p]
  | _ => []

end SlotEvent

namespace SlotDoc

/-- The document it is when slot `i` holds `g i`. -/
def fill (g : Nat → String) (S : SlotDoc) : Document where
  config := S.config
  ids := S.ids
  frames := S.frames.map (SlotFrame.fill g)
  out := Piece.spell g S.out

/-- The slots it holds: those of its own text, then those of its open frames. -/
def slots (S : SlotDoc) : List Nat := Piece.slots S.out ++ S.frames.flatMap SlotFrame.slots

section Fill

variable (g : Nat → String) (S : SlotDoc)

@[simp] theorem eraseLog_fill : (S.fill g).eraseLog = S.fill g := rfl

@[simp] theorem frames_fill : (S.fill g).frames = S.frames.map (SlotFrame.fill g) := rfl

/-- A slot document renders with the packaged templates. -/
theorem output_fill (f : Frame) : (S.fill g).output f = Output.ofFrame S.config f := rfl

end Fill

/-- Write pieces into the innermost frame, or the document when none is open. -/
def write (S : SlotDoc) (Q : List Piece) : SlotDoc :=
  match S.frames with
  | [] => { S with out := S.out ++ Q }
  | s :: rest => { S with frames := { s with body := s.body ++ [Q] } :: rest }

theorem write_fill (g : Nat → String) (S : SlotDoc) (Q : List Piece) :
    (S.fill g).write (Piece.spell g Q) = (S.write Q).fill g := by
  unfold Document.write write
  cases h : S.frames with
  | nil => simp [fill, h]
  | cons s rest => simp [fill, h, SlotFrame.fill]

theorem slots_write (S : SlotDoc) (Q : List Piece) :
    (S.write Q).slots.Perm (S.slots ++ Piece.slots Q) := by
  unfold write
  cases h : S.frames with
  | nil => simp [slots, h]
  | cons s rest =>
    simp only [slots, h, List.flatMap_cons, SlotFrame.slots, SlotFrame.pieces,
      List.flatten_append, List.flatten_cons, List.flatten_nil, List.append_nil,
      Piece.slots_append]
    rw [List.perm_iff_count]
    intro a
    simp only [List.count_append]
    omega

/-- Open a frame for a tag's definition with validated attributes, drawing its id. -/
def openFrame (S : SlotDoc) (td : TagDef) (attrs : Attrs) : SlotDoc :=
  { S with
    ids := (Document.openId S.ids td attrs).2
    frames := { tag := td.name, kind := td.frame, id := (Document.openId S.ids td attrs).1,
                attrs } :: S.frames }

theorem openFrame_fill (g : Nat → String) (S : SlotDoc) (td : TagDef) (attrs : Attrs) :
    ((S.fill g).openFrame td attrs).eraseLog = (S.openFrame td attrs).fill g := by
  rw [Document.eraseLog_openFrame]
  rfl

@[simp] theorem slots_openFrame (S : SlotDoc) (td : TagDef) (attrs : Attrs) :
    (S.openFrame td attrs).slots = S.slots := by
  simp [slots, openFrame, SlotFrame.slots, SlotFrame.pieces]

/-! ## What the frames of a session satisfy -/

/-- What the open frames of a session satisfy, read off its slot frames: each is of a tag of
the table, only a layout holds areas, the areas of a border layout are at distinct border
positions, and a child innermost has a frame of its parent's kind beneath it. -/
structure Fit (ss : List SlotFrame) : Prop where
  kinds : ∀ s ∈ ss, ∃ td ∈ TagDef.all, td.name = s.tag ∧ td.frame = s.kind
  layout_only : ∀ s ∈ ss, s.areas ≠ [] → s.kind = .layout
  border : ∀ s ∈ ss, s.kind = .layout → s.get? "type" = some (.str "border") →
    (s.areas.map (·.1.position)).Nodup ∧ ∀ x ∈ s.areas, Document.OnBorder x.1.position
  parents : ∀ s rest, ss = s :: rest → ∀ k c p, Document.childOf? s.tag = some (k, c, p) →
    (rest.find? (·.kind == k)).isSome

/-! ## Settling a closed frame -/

theorem refusesBody_fill {g g' : Nat → String} (hg : Filling g) (hg' : Filling g')
    (s : SlotFrame) : Document.refusesBody (s.fill g) = Document.refusesBody (s.fill g') := by
  simp only [Document.refusesBody, Document.blankBody, SlotFrame.isBlankText_content_fill hg,
    SlotFrame.isBlankText_content_fill hg', SlotFrame.tag_fill, SlotFrame.holds_fill]

theorem register_fill (g : Nat → String) (T : SlotDoc) (s : SlotFrame) {k : FrameKind}
    (hp : (T.frames.find? (·.kind == k)).isSome) :
    ((T.fill g).register (s.fill g) k).eraseLog =
      { T with frames := SlotFrame.updateNearest k (SlotFrame.adopt s) T.frames }.fill g := by
  rw [Document.eraseLog_register, frames_fill, SlotFrame.nearest?_fill, Option.isSome_map,
    if_pos hp, SlotFrame.updateNearest_fill]
  rfl

/-- A frame that writes, writes into the frame beneath it, or the document. -/
theorem emit_fill (T : SlotDoc) (s : SlotFrame) {sl : List Nat}
    (hw : s.Writes T.config sl) :
    ∃ Q, Piece.slots Q = sl ∧ ∀ g, Filling g →
      ((T.fill g).emit (s.fill g)).2 = none ∧
        ((T.fill g).emit (s.fill g)).1.eraseLog = (T.write Q).fill g := by
  obtain ⟨Q, hQ, hout⟩ := hw
  refine ⟨Q, hQ, fun g hg => ?_⟩
  obtain ⟨o, ho, htext⟩ := hout g hg
  rw [Document.emit_eq, output_fill, ho]
  exact ⟨rfl, by rw [Document.eraseLog_write_noteAll, htext, write_fill]; rfl⟩

/-- Settling a closed frame is, whatever fills the slots, one change of the slot document,
which keeps every slot once. -/
theorem settle_fill {T : SlotDoc} {s : SlotFrame} (hfit : Fit (s :: T.frames))
    {g₀ : Nat → String} (hg₀ : Filling g₀) (hok : ((T.fill g₀).settle (s.fill g₀)).2 = none) :
    ∃ T' : SlotDoc, T'.slots.Perm (T.slots ++ s.slots) ∧ ∀ g, Filling g →
      ((T.fill g).settle (s.fill g)).2 = none ∧
        ((T.fill g).settle (s.fill g)).1.eraseLog = T'.fill g := by
  have hs : s ∈ s :: T.frames := List.mem_cons_self
  obtain ⟨td, htd, hname, hframe⟩ := hfit.kinds s hs
  rcases Document.settle_cases (T.fill g₀) (s.fill g₀) with
    ⟨-, e, he⟩ | ⟨hr, k, c, p, hc, -⟩ | ⟨hr, hc, he⟩
  · rw [he] at hok
    cases hok
  · -- the frame registers into its parent
    rw [SlotFrame.tag_fill] at hc
    have hparent := hfit.parents s T.frames rfl k c p hc
    refine ⟨{ T with frames := SlotFrame.updateNearest k (SlotFrame.adopt s) T.frames }, ?_,
      fun g hg => ?_⟩
    · -- an area takes the child's body; a column or a row takes no body and holds no area
      have hnone : s.areas = [] := by
        cases ha : s.areas with
        | nil => rfl
        | cons x xs =>
          have hk : td.frame = .layout := hframe.trans (hfit.layout_only s hs (by simp [ha]))
          have hlay : s.tag = "layout" := hname.symm.trans (SlotFrame.layout_of_table td htd hk)
          rw [hlay] at hc
          simp [Document.childOf?] at hc
      have hgrid : s.tag = "gridcolumn" ∨ s.tag = "gridrow" → Piece.slots s.pieces = [] := by
        intro ht
        refine Piece.slots_eq_nil_of_blank (SlotFrame.blank_of_refuses hg₀ hr ?_)
        rcases ht with ht | ht <;> simp [ht, Document.bodyless?]
      have hupd := SlotFrame.slots_updateNearest (fun q => SlotFrame.slots_adopt s q hgrid) hparent
      simp only [slots, SlotFrame.slots, hnone, List.flatMap_nil, List.append_nil,
        List.append_assoc]
      exact hupd.append_left _
    · have hr' := (refusesBody_fill hg hg₀ s).trans hr
      rcases Document.settle_cases (T.fill g) (s.fill g) with
        ⟨hr'', -⟩ | ⟨-, k', c', p', hc', he'⟩ | ⟨-, hc', -⟩
      · rw [hr'] at hr''
        cases hr''
      · rw [SlotFrame.tag_fill, hc] at hc'
        cases hc'
        rw [he']
        exact ⟨rfl, register_fill g T s hparent⟩
      · rw [SlotFrame.tag_fill, hc] at hc'
        cases hc'
  · -- the frame writes where text would go
    rw [SlotFrame.tag_fill] at hc
    obtain ⟨o, ho⟩ : ∃ o, Output.ofFrame T.config (s.fill g₀) = .ok o := by
      rw [he] at hok
      rcases Document.emit_cases (T.fill g₀) (s.fill g₀) with ⟨e, he', -⟩ | ⟨o, ho, -, -⟩
      · rw [he'] at hok
        cases hok
      · exact ⟨o, ho⟩
    obtain ⟨sl, hperm, hw⟩ := SlotFrame.writes_closed hg₀ (hfit.kinds s hs)
      (hfit.layout_only s hs) (hfit.border s hs) hc hr ho
    obtain ⟨Q, hQ, hemit⟩ := emit_fill T s hw
    refine ⟨T.write Q, ?_, fun g hg => ?_⟩
    · calc List.Perm (T.write Q).slots (T.slots ++ Piece.slots Q) := slots_write T Q
        _ = T.slots ++ sl := by rw [hQ]
        List.Perm _ (T.slots ++ s.slots) := hperm.append_left _
    · have hr' := (refusesBody_fill hg hg₀ s).trans hr
      rcases Document.settle_cases (T.fill g) (s.fill g) with
        ⟨hr'', -⟩ | ⟨-, k', c', p', hc', -⟩ | ⟨-, -, he'⟩
      · rw [hr'] at hr''
        cases hr''
      · rw [SlotFrame.tag_fill, hc] at hc'
        cases hc'
      · rw [he']
        exact hemit g hg

/-- A close on a filled slot document is, whatever fills the slots, the close on one slot
document, which holds the slots it held. -/
theorem close_fill {S : SlotDoc} (hfit : Fit S.frames) {g₀ : Nat → String} (hg₀ : Filling g₀)
    (tag : String) (hok : ((S.fill g₀).close tag).2 = none) :
    ∃ S' : SlotDoc, S'.slots.Perm S.slots ∧ ∀ g, Filling g →
      ((S.fill g).close tag).2 = none ∧ ((S.fill g).close tag).1.eraseLog = S'.fill g := by
  rcases Document.close_cases (S.fill g₀) tag with ⟨err, he, -⟩ | ⟨td, f, rest, hl, hf, ht, he⟩
  · rw [he] at hok
    cases hok
  · -- the innermost frame closes and settles into the frames beneath it
    obtain ⟨s, rs, hS, rfl, rfl⟩ := List.map_eq_cons_iff.1 hf
    have hpop : ∀ g, ((S.fill g).popped (s.fill g) (rs.map (SlotFrame.fill g))).eraseLog =
        (({ S with frames := rs } : SlotDoc).fill g).eraseLog := fun g => rfl
    have hsettle₀ : ((({ S with frames := rs } : SlotDoc).fill g₀).settle (s.fill g₀)).2 =
        none := by
      rw [← (Document.settle_congr (hpop g₀) (s.fill g₀)).2, ← he]
      exact hok
    have hfit' : Fit (s :: ({ S with frames := rs } : SlotDoc).frames) := hS ▸ hfit
    obtain ⟨T', hperm, hT'⟩ := settle_fill hfit' hg₀ hsettle₀
    refine ⟨T', ?_, fun g hg => ?_⟩
    · have hslots : S.slots.Perm (({ S with frames := rs } : SlotDoc).slots ++ s.slots) := by
        simp only [slots, hS, List.flatMap_cons, List.append_assoc]
        exact List.perm_append_comm.append_left _
      exact hperm.trans hslots.symm
    · have hclose : (S.fill g).close tag =
          ((S.fill g).popped (s.fill g) (rs.map (SlotFrame.fill g))).settle (s.fill g) :=
        Document.close_eq_settle hl (by simp [hS]) (by simpa using ht)
      obtain ⟨h₁, h₂⟩ := Document.settle_congr (hpop g) (s.fill g)
      obtain ⟨h₃, h₄⟩ := hT' g hg
      rw [hclose]
      exact ⟨h₂.trans h₃, h₁.trans h₄⟩

/-! ## One event -/

/-- One event on a filled slot document is, whatever fills the slots, the event on one slot
document, which holds the slots it held and the slot the event writes. -/
theorem step_fill {S : SlotDoc} (hfit : Fit S.frames) {g₀ : Nat → String} (hg₀ : Filling g₀)
    (e : SlotEvent) (hok : ((S.fill g₀).step (e.fill g₀)).2 = none) :
    ∃ S' : SlotDoc, S'.slots.Perm (S.slots ++ e.slots) ∧ ∀ g, Filling g →
      ((S.fill g).step (e.fill g)).2 = none ∧ ((S.fill g).step (e.fill g)).1.eraseLog = S'.fill g := by
  cases e with
  | start tag raw hasBody =>
    -- the checks of the start read no text, so they pass alike for every filling
    have hchecks : ∀ g, Document.startChecks (S.fill g).frames tag raw hasBody =
        Document.startChecks (S.fill g₀).frames tag raw hasBody := fun g =>
      SlotFrame.startChecks_fill S.frames tag raw hasBody g g₀
    simp only [SlotEvent.fill] at hok ⊢
    unfold Document.step at hok ⊢
    simp only [Document.start_eq_checks] at hok ⊢
    cases hc : Document.startChecks (S.fill g₀).frames tag raw hasBody with
    | error err =>
      rw [hc] at hok
      cases hok
    | ok x =>
      refine ⟨S.openFrame x.1 x.2, by simp [SlotEvent.slots], fun g _ => ?_⟩
      rw [hchecks g, hc]
      exact ⟨rfl, openFrame_fill g S x.1 x.2⟩
  | write p =>
    refine ⟨S.write [p], slots_write S [p], fun g _ => ⟨rfl, ?_⟩⟩
    have hp : Piece.spell g [p] = p.fill g := by simp
    simp only [SlotEvent.fill, Document.step_write, ← hp, write_fill, eraseLog_fill]
  | close tag =>
    simp only [SlotEvent.fill, Document.step_close] at hok ⊢
    obtain ⟨T', hperm, hT'⟩ := close_fill hfit hg₀ tag hok
    exact ⟨T', by simpa [SlotEvent.slots] using hperm, hT'⟩
  | finish =>
    -- finishing changes nothing; it fails exactly when a frame is open
    have hfin : ∀ g, (S.fill g).finish = (S.fill g₀).finish.map fun _ => Piece.spell g S.out := by
      intro g
      simp [Document.finish, Except.map]
      split <;> rfl
    refine ⟨S, by simp [SlotEvent.slots], fun g _ => ⟨?_, ?_⟩⟩
    · simp only [SlotEvent.fill] at hok ⊢
      unfold Document.step at hok ⊢
      rw [hfin g]
      revert hok
      cases (S.fill g₀).finish <;> simp [Except.map]
    · simp only [SlotEvent.fill]
      rw [Document.step_finish]
      rfl

end SlotDoc

/-! ## The shape of a session -/

namespace Document

/-- What every state of a session from no open frame satisfies, with the positions of its
border layouts apart while no area starts where an open area of its layout stands. -/
structure Shaped (d : Document) : Prop where
  wf : d.Wf
  kinds : d.KindsDefined
  onBorder : d.ClaimsOnBorder
  apart : d.ClaimsApart

theorem shaped_of_frames_nil {d : Document} (h : d.frames = []) : d.Shaped where
  wf := wf_of_frames_nil h
  kinds := kindsDefined_of_frames_nil h
  onBorder := by simp [ClaimsOnBorder, h, claims_nil]
  apart := by simp [ClaimsApart, h, claims_nil]

theorem Shaped.step {d : Document} (h : d.Shaped) {ev : Event} (hr : d.reclaims ev = false) :
    (d.step ev).1.Shaped where
  wf := h.wf.step ev
  kinds := h.kinds.step ev
  onBorder := h.onBorder.step h.kinds ev
  apart := h.apart.step h.kinds hr

/-- Documents that agree but for their logs have one shape. -/
theorem Shaped.of_eraseLog {d d' : Document} (hd : d.eraseLog = d'.eraseLog) (h : d.Shaped) :
    d'.Shaped := by
  have hf : d.frames = d'.frames := (eraseLog_eq_iff.1 hd).2.2.1
  exact
    { wf := h.wf.of_eraseLog hd
      kinds := fun f hf' => h.kinds f (stack_eq_of_eraseLog hd ▸ hf')
      onBorder := by
        intro ps hps
        exact h.onBorder ps (hf ▸ hps)
      apart := by
        intro ps hps
        exact h.apart ps (hf ▸ hps) }

end Document

namespace SlotDoc

/-- The frames of a slot document filled into a document of a session's shape fit. -/
theorem fit_of_shaped {S : SlotDoc} {g : Nat → String} (h : (S.fill g).Shaped) : Fit S.frames where
  kinds := by
    intro s hs
    have hmem : (s.fill g).opened ∈ Document.stack (S.fill g) :=
      List.mem_map_of_mem (List.mem_map_of_mem hs)
    simpa using h.kinds _ hmem
  layout_only := by
    intro s hs ha
    have hsound := h.wf.sound (s.fill g) (List.mem_map_of_mem hs)
    simpa using hsound.layout_only (by simpa using ha)
  border := by
    intro s hs hk htype
    have hmem : s.fill g ∈ (S.fill g).frames := List.mem_map_of_mem hs
    have hnd := Document.areas_apart h.apart hmem hk htype
    have hon := Document.areas_onBorder h.onBorder hmem hk htype
    refine ⟨by simpa [List.map_map, Function.comp_def] using hnd, fun x hx => ?_⟩
    simpa using hon _ (List.mem_map_of_mem hx)
  parents := by
    intro s rest hS k c p hc
    obtain ⟨q, hq⟩ := @Document.Wf.parent_exists (S.fill g) h.wf (s.fill g)
      (rest.map (SlotFrame.fill g)) (by simp [hS]) k c p hc
    rw [SlotFrame.nearest?_fill] at hq
    cases hfind : rest.find? (·.kind == k) with
    | none => simp [hfind] at hq
    | some r => rfl

/-! ## A run of events -/

/-- A run of events with no failure on a filled slot document, in a session whose border
layouts never take a position twice, is, whatever fills the slots, a run with no failure to one
slot document, which holds the slots it held and those the run writes. -/
theorem exec_fill {g₀ : Nat → String} (hg₀ : Filling g₀) :
    ∀ (es : List SlotEvent) (S : SlotDoc), (S.fill g₀).Shaped →
      ((S.fill g₀).exec (es.map (SlotEvent.fill g₀))).2 = none →
      Document.reclaimsIn (S.fill g₀) (es.map (SlotEvent.fill g₀)) = false →
      ∃ S' : SlotDoc, S'.slots.Perm (S.slots ++ es.flatMap SlotEvent.slots) ∧ ∀ g, Filling g →
        ((S.fill g).exec (es.map (SlotEvent.fill g))).2 = none ∧
          ((S.fill g).exec (es.map (SlotEvent.fill g))).1.eraseLog = S'.fill g
  | [], S, _, _, _ => ⟨S, by simp, fun _ _ => ⟨rfl, rfl⟩⟩
  | e :: es, S, hsh, hok, hr => by
    simp only [List.map_cons, Document.reclaimsIn, Bool.or_eq_false_iff] at hok hr
    rw [Document.exec_cons] at hok
    -- the first event does not fail
    obtain ⟨d₀, hs₀⟩ : ∃ d₀, (S.fill g₀).step (e.fill g₀) = (d₀, none) := by
      rcases h : (S.fill g₀).step (e.fill g₀) with ⟨d₀, _ | err⟩
      · exact ⟨d₀, rfl⟩
      · rw [h] at hok
        cases hok
    rw [hs₀] at hok hr
    -- the first event, whatever fills the slots
    obtain ⟨S₁, hperm₁, hS₁⟩ := step_fill (fit_of_shaped hsh) hg₀ e (by rw [hs₀])
    have hd₀ : d₀.eraseLog = (S₁.fill g₀).eraseLog := by
      have := (hS₁ g₀ hg₀).2
      rw [hs₀] at this
      exact this
    -- the rest of the run, from the slot document the first event left
    have hsh₁ : (S₁.fill g₀).Shaped := by
      have := @Document.Shaped.step _ hsh (e.fill g₀) hr.1
      rw [hs₀] at this
      exact this.of_eraseLog hd₀
    have hok₁ : ((S₁.fill g₀).exec (es.map (SlotEvent.fill g₀))).2 = none :=
      ((Document.exec_congr hd₀ _).2).symm.trans hok
    have hr₁ : Document.reclaimsIn (S₁.fill g₀) (es.map (SlotEvent.fill g₀)) = false :=
      (Document.reclaimsIn_congr hd₀ _).symm.trans hr.2
    obtain ⟨S₂, hperm₂, hS₂⟩ := exec_fill hg₀ es S₁ hsh₁ hok₁ hr₁
    refine ⟨S₂, ?_, fun g hg => ?_⟩
    · calc List.Perm S₂.slots (S₁.slots ++ es.flatMap SlotEvent.slots) := hperm₂
        List.Perm _ (S.slots ++ e.slots ++ es.flatMap SlotEvent.slots) := hperm₁.append_right _
        _ = S.slots ++ (e :: es).flatMap SlotEvent.slots := by simp
    · obtain ⟨hstep, hd⟩ := hS₁ g hg
      rw [List.map_cons, Document.exec_cons]
      rcases hs : (S.fill g).step (e.fill g) with ⟨d, _ | err⟩
      · rw [hs] at hd
        obtain ⟨h₁, h₂⟩ := @Document.exec_congr _ (S₁.fill g) hd (es.map (SlotEvent.fill g))
        obtain ⟨h₃, h₄⟩ := hS₂ g hg
        exact ⟨h₂.trans h₃, h₁.trans h₄⟩
      · rw [hs] at hstep
        cases hstep


end SlotDoc

end UiTags
