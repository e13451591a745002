import UiTags.Proofs.Frames

/-!
# Areas of border layouts

A border layout shows each of its areas in the region its position names, one region per
position. An area's start checks its position against the areas already registered into its
layout, but an area registers only when it closes. So the positions a border layout has taken
are those of its registered areas and those of its areas still open, and a start is checked
against the first of these only.

Every position a border layout takes is one of the five border positions. Two areas of one
layout share a position only if an area starts inside an open area of the same layout, at that
area's position: the start's check does not see the open area. In a run where no start does
so, the positions of each border layout's areas are pairwise distinct, so its region map shows
every area. An area at the top holding another area at the top leaves two areas at the top.

Main results:

- `Document.claims_step`: what one event does to the positions each open border layout has
  taken.
- `border_areas_placed`: in every state a session reaches from no open frame, the areas of
  each open border layout are at border positions; when no start took the position of an open
  area of its layout, they are at distinct positions, each shown in its own region.
- `nested_areas_share_region`: an area at the top that holds another area at the top leaves
  its layout with two areas at the top.
-/

namespace UiTags

/-! ## The region map -/

/-- Among items at distinct keys, an item is the only one at its key. -/
theorem filter_key_eq {β : Type} (key : β → Option Value) {xs : List β}
    (hnd : (xs.map key).Nodup) {x : β} (hx : x ∈ xs) {p : Option Value} (hp : key x = p) :
    xs.filter (key · == p) = [x] := by
  induction xs with
  | nil => cases hx
  | cons b bs ih =>
    rw [List.map_cons, List.nodup_cons] at hnd
    obtain ⟨hb, hbs⟩ := hnd
    rcases List.mem_cons.1 hx with rfl | hx
    · -- no later item is at the key of the first
      have hrest : bs.filter (key · == p) = [] := by
        rw [List.filter_eq_nil_iff]
        intro c hc hcp
        exact hb (hp ▸ (beq_iff_eq.1 hcp) ▸ List.mem_map_of_mem hc)
      simp [hp, hrest]
    · have hbp : (key b == p) = false := by
        rw [beq_eq_false_iff_ne]
        rintro rfl
        exact hb (hp ▸ List.mem_map_of_mem hx)
      rw [List.filter_cons, hbp]
      exact ih hbs hx

namespace LayoutView

@[simp] theorem position_area (a : Area) (t : Value) : (area a t).position = a.position := rfl

@[simp] theorem areas_ofFrame (f : Frame) :
    (ofFrame f).areas = f.areas.map fun a => area a ((f.get? "type").getD .null) := rfl

/-- Areas at distinct positions are each the area their region shows. -/
theorem at?_area {areas : List Area} (hnd : (areas.map (·.position)).Nodup) {a : Area}
    (ha : a ∈ areas) {s : String} (hs : a.position = some (.str s)) (t : Value) :
    at? (areas.map fun b => area b t) s = some (area a t) := by
  unfold at?
  rw [List.filter_map]
  have hfilter : areas.filter ((fun v => v.position == some (.str s)) ∘ fun b => area b t) =
      [a] := filter_key_eq (·.position) hnd ha hs
  rw [hfilter]
  rfl

end LayoutView

namespace Document

/-! ## Border layouts and the positions they have taken -/

/-- The test an area's start makes of its layout: whether it is a border layout. -/
def isBorder (f : Frame) : Bool := f.get? "type" == some (.str "border")

theorem isBorder_iff {f : Frame} : isBorder f = true ↔ f.get? "type" = some (.str "border") := by
  simp [isBorder]

/-- A position is one of the five border positions. -/
def OnBorder (p : Option Value) : Prop := ∃ s ∈ TagDef.borderPositions, p = some (.str s)

/-- The positions of the areas open above the innermost layout, innermost first: the areas
started in that layout and not yet registered into it. -/
def pendingPositions (fs : List Frame) : List (Option Value) :=
  ((fs.takeWhile (·.kind != .layout)).filter (·.tag == "layoutarea")).map (·.get? "position")

/-- The positions each open border layout has taken, innermost layout first: those of its
registered areas, then those of its open areas, innermost first. The positions of the open
areas met above the next layout come in as `pend`. -/
def claims (pend : List (Option Value)) : List Frame → List (List (Option Value))
  | [] => []
  | f :: fs =>
    if f.kind = .layout then
      (if isBorder f then [f.areas.map (·.position) ++ pend] else []) ++ claims [] fs
    else if f.tag = "layoutarea" then claims (pend ++ [f.get? "position"]) fs
    else claims pend fs

section Claims

variable {pend : List (Option Value)} {f : Frame} {fs : List Frame}

@[simp] theorem claims_nil : claims pend [] = [] := rfl

theorem claims_cons_layout (hk : f.kind = .layout) :
    claims pend (f :: fs) =
      (if isBorder f then [f.areas.map (·.position) ++ pend] else []) ++ claims [] fs := by
  simp [claims, hk]

theorem claims_cons_area (hk : f.kind ≠ .layout) (ht : f.tag = "layoutarea") :
    claims pend (f :: fs) = claims (pend ++ [f.get? "position"]) fs := by
  simp [claims, hk, ht]

theorem claims_cons_other (hk : f.kind ≠ .layout) (ht : f.tag ≠ "layoutarea") :
    claims pend (f :: fs) = claims pend fs := by
  simp [claims, hk, ht]

theorem pendingPositions_cons_layout (hk : f.kind = .layout) : pendingPositions (f :: fs) = [] := by
  simp [pendingPositions, hk]

theorem pendingPositions_cons_area (hk : f.kind ≠ .layout) (ht : f.tag = "layoutarea") :
    pendingPositions (f :: fs) = f.get? "position" :: pendingPositions fs := by
  simp [pendingPositions, hk, ht]

theorem pendingPositions_cons_other (hk : f.kind ≠ .layout) (ht : f.tag ≠ "layoutarea") :
    pendingPositions (f :: fs) = pendingPositions fs := by
  simp [pendingPositions, hk, ht]

theorem nearest?_cons_layout (hk : f.kind = .layout) : nearest? (f :: fs) .layout = some f := by
  simp [nearest?, hk]

theorem nearest?_cons_other (hk : f.kind ≠ .layout) :
    nearest? (f :: fs) .layout = nearest? fs .layout := by
  simp [nearest?, hk]

end Claims

/-- What the claims read of each frame: how it was opened and its areas. -/
theorem claims_congr {fs gs : List Frame} (hopened : fs.map Frame.opened = gs.map Frame.opened)
    (hareas : fs.map Frame.areas = gs.map Frame.areas) (pend : List (Option Value)) :
    claims pend fs = claims pend gs := by
  induction fs generalizing gs pend with
  | nil =>
    cases gs with
    | nil => rfl
    | cons g gs => cases hopened
  | cons f fs ih =>
    cases gs with
    | nil => cases hopened
    | cons g gs =>
      simp only [List.map_cons, List.cons.injEq] at hopened hareas
      have hk : f.kind = g.kind := by rw [← Frame.opened_kind f, hopened.1, Frame.opened_kind]
      have ht : f.tag = g.tag := by rw [← Frame.opened_tag f, hopened.1, Frame.opened_tag]
      have hb : isBorder f = isBorder g := by
        simp only [isBorder, Frame.get?]
        rw [← Frame.opened_attrs f, hopened.1, Frame.opened_attrs]
      have hpos : f.get? "position" = g.get? "position" := by
        simp only [Frame.get?]
        rw [← Frame.opened_attrs f, hopened.1, Frame.opened_attrs]
      simp only [claims, hk, ht, hb, hpos, hareas.1, ih hopened.2 hareas.2]

/-- With no frame of a kind open, updating the innermost one changes nothing. -/
theorem updateNearest_of_nearest?_eq_none {k : FrameKind} {g : Frame → Frame} {fs : List Frame}
    (h : nearest? fs k = none) : updateNearest k g fs = fs := by
  induction fs with
  | nil => rfl
  | cons f fs ih =>
    have hk : (f.kind == k) = false := by
      simp only [nearest?, List.find?_cons] at h
      split at h
      · cases h
      · assumption
    simp only [nearest?, List.find?_cons, hk] at h
    simp only [updateNearest, hk, Bool.false_eq_true, if_false, ih h]

/-- An area that closes moves its position from the open areas of its layout to the
registered ones: what the layout has taken stays the same. -/
theorem claims_register_area {a : Frame} (ha : a.tag = "layoutarea") (pend : List (Option Value))
    (fs : List Frame) :
    claims pend (updateNearest .layout (adopt a) fs) = claims (a.get? "position" :: pend) fs := by
  induction fs generalizing pend with
  | nil => rfl
  | cons g gs ih =>
    by_cases hk : g.kind = .layout
    · -- the innermost layout gains the area after its registered ones
      have hg : updateNearest .layout (adopt a) (g :: gs) = adopt a g :: gs := by
        simp [updateNearest, hk]
      have hadopt : adopt a g = { g with areas := g.areas ++
          [{ id := a.id, index := g.areas.length, title := a.get? "title",
             position := a.get? "position", content := a.content, attrs := a.attrs }] } := by
        simp [adopt, ha]
      have hb : isBorder (adopt a g) = isBorder g := by rw [hadopt]; rfl
      rw [hg, claims_cons_layout (by rw [hadopt]; exact hk), claims_cons_layout hk, hb, hadopt]
      simp only [List.map_append, List.map_cons, List.map_nil, List.append_assoc,
        List.singleton_append]
    · have hg : updateNearest .layout (adopt a) (g :: gs) = g :: updateNearest .layout (adopt a) gs := by
        simp [updateNearest, hk]
      rw [hg]
      by_cases ht : g.tag = "layoutarea"
      · rw [claims_cons_area hk ht, claims_cons_area hk ht, ih, List.cons_append]
      · rw [claims_cons_other hk ht, claims_cons_other hk ht, ih]

/-- Starting an area adds its position to the open areas of the innermost layout; every other
claim stays. -/
theorem mem_claims_cons {p : Option Value} {pend : List (Option Value)} {fs : List Frame}
    {ps : List (Option Value)} (hps : ps ∈ claims (p :: pend) fs) :
    ps ∈ claims pend fs ∨ ∃ L, nearest? fs .layout = some L ∧ isBorder L = true ∧
      L.areas.map (·.position) ++ (pend ++ pendingPositions fs) ∈ claims pend fs ∧
      ps = L.areas.map (·.position) ++ p :: (pend ++ pendingPositions fs) := by
  induction fs generalizing pend with
  | nil => simp at hps
  | cons g gs ih =>
    by_cases hk : g.kind = .layout
    · rw [claims_cons_layout hk] at hps
      rw [claims_cons_layout hk, nearest?_cons_layout hk, pendingPositions_cons_layout hk,
        List.append_nil]
      by_cases hb : isBorder g
      · simp only [hb, if_true, List.singleton_append, List.mem_cons] at hps ⊢
        rcases hps with rfl | hps
        · exact .inr ⟨g, rfl, hb, .inl rfl, rfl⟩
        · exact .inl (.inr hps)
      · simp only [hb, if_false, Bool.false_eq_true, List.nil_append] at hps ⊢
        exact .inl hps
    · rw [nearest?_cons_other hk]
      by_cases ht : g.tag = "layoutarea"
      · rw [claims_cons_area hk ht, List.cons_append] at hps
        rw [claims_cons_area hk ht, pendingPositions_cons_area hk ht]
        rcases ih hps with hps | ⟨L, hL, hb, hmem, rfl⟩
        · exact .inl hps
        · exact .inr ⟨L, hL, hb, by simpa using hmem, by simp⟩
      · rw [claims_cons_other hk ht] at hps
        rw [claims_cons_other hk ht, pendingPositions_cons_other hk ht]
        exact ih hps

/-- A border layout's registered areas begin one of the claims. -/
theorem areas_prefix_claim {L : Frame} {fs : List Frame} (hL : L ∈ fs) (hk : L.kind = .layout)
    (hb : isBorder L = true) (pend : List (Option Value)) :
    ∃ ps ∈ claims pend fs, L.areas.map (·.position) <+: ps := by
  induction fs generalizing pend with
  | nil => cases hL
  | cons g gs ih =>
    by_cases hg : g.kind = .layout
    · rw [claims_cons_layout hg]
      rcases List.mem_cons.1 hL with rfl | hL
      · exact ⟨L.areas.map (·.position) ++ pend, by simp [hb], List.prefix_append _ _⟩
      · obtain ⟨ps, hps, hpre⟩ := ih hL []
        exact ⟨ps, List.mem_append_right _ hps, hpre⟩
    · have hne : L ≠ g := fun h => hg (h ▸ hk)
      have hL : L ∈ gs := (List.mem_cons.1 hL).resolve_left hne
      by_cases ht : g.tag = "layoutarea"
      · rw [claims_cons_area hg ht]
        exact ih hL _
      · rw [claims_cons_other hg ht]
        exact ih hL _

/-! ## Frames have the kinds their tags define -/

/-- Every open frame has the tag and the kind of one of the tags' definitions. -/
def KindsDefined (d : Document) : Prop :=
  ∀ f ∈ stack d, ∃ td ∈ TagDef.all, td.name = f.tag ∧ td.frame = f.kind

/-- The area tag opens no layout frame. -/
theorem area_frame_plain : ∀ td ∈ TagDef.all, td.name = "layoutarea" → td.frame = .plain := by
  decide +kernel

theorem mem_all_of_lookup {tag : String} {td : TagDef} (h : TagDef.lookup tag = some td) :
    td ∈ TagDef.all := by
  unfold TagDef.lookup at h
  exact List.mem_of_find?_eq_some h

theorem KindsDefined.area_kind {d : Document} (hk : d.KindsDefined) {f : Frame}
    (hf : f ∈ d.frames) (ht : f.tag = "layoutarea") : f.kind ≠ .layout := by
  obtain ⟨td, htd, hname, hframe⟩ := hk f.opened (List.mem_map_of_mem hf)
  simp only [Frame.opened_tag, Frame.opened_kind] at hname hframe
  rw [← hframe, area_frame_plain td htd (hname.trans ht)]
  decide

theorem KindsDefined.of_stack {d d' : Document} (hk : d.KindsDefined)
    (h : stack d' = stack d ∨ ∃ f, stack d = f :: stack d') : d'.KindsDefined := by
  intro f hf
  rcases h with h | ⟨g, h⟩
  · exact hk f (h ▸ hf)
  · exact hk f (h ▸ List.mem_cons_of_mem g hf)

theorem KindsDefined.close {d : Document} (hk : d.KindsDefined) (tag : String) :
    (d.close tag).1.KindsDefined := by
  refine hk.of_stack ?_
  rcases close_cases d tag with ⟨e, h, -⟩ | ⟨td, f, rest, -, hf, -, h⟩
  · rw [h]
    exact .inl rfl
  · refine .inr ⟨f.opened, ?_⟩
    rw [h, stack_settle, stack_eq_of_eraseLog (eraseLog_popped d f rest)]
    simp [stack, hf]

/-- The frame a start pushes is its tag's definition. -/
theorem KindsDefined.start {d d' : Document} (hk : d.KindsDefined) {tag : String} {raw : Attrs}
    {hasBody : Bool} (h : d.start tag raw hasBody = .ok d') : d'.KindsDefined := by
  obtain ⟨td, attrs, hl, h'⟩ := start_ok_eraseLog h
  intro f hf
  rw [stack_eq_of_eraseLog h'] at hf
  rcases List.mem_cons.1 hf with rfl | hf
  · exact ⟨td, mem_all_of_lookup hl, rfl, rfl⟩
  · exact hk f hf

theorem KindsDefined.step {d : Document} (hk : d.KindsDefined) (ev : Event) :
    (d.step ev).1.KindsDefined := by
  cases ev with
  | start tag raw hasBody =>
    cases h : d.start tag raw hasBody with
    | error e =>
      rw [step_start_error h]
      exact hk
    | ok d' =>
      rw [step_start_ok h]
      exact hk.start h
  | write text => exact hk.of_stack (.inl (stack_write d text))
  | close tag => exact hk.close tag
  | finish =>
    rw [step_finish]
    exact hk

/-! ## What one event does to the claims -/

/-- Text written into a frame leaves the claims as they are. -/
@[simp] theorem claims_write (d : Document) (text : String) (pend : List (Option Value)) :
    claims pend (d.write text).frames = claims pend d.frames := by
  unfold write
  split
  · rfl
  · rename_i f rest hframes
    rw [hframes]
    exact claims_congr (by simp) (by simp) pend

theorem claims_of_eraseLog {d d' : Document} (h : d.eraseLog = d'.eraseLog)
    (pend : List (Option Value)) : claims pend d.frames = claims pend d'.frames := by
  have hframes := congrArg Document.frames h
  simp only [frames_eraseLog] at hframes
  rw [hframes]

@[simp] theorem claims_emit (d : Document) (f : Frame) (pend : List (Option Value)) :
    claims pend (d.emit f).1.frames = claims pend d.frames := by
  rcases emit_cases d f with ⟨-, -, h⟩ | ⟨o, -, -, h⟩
  · exact claims_of_eraseLog h pend
  · rw [claims_of_eraseLog h pend, claims_write]

/-- Columns and rows leave every frame's areas as they are. -/
theorem map_areas_updateNearest_grid {c : Frame} (hc : c.tag = "gridcolumn" ∨ c.tag = "gridrow")
    (fs : List Frame) :
    (updateNearest .grid (adopt c) fs).map Frame.areas = fs.map Frame.areas := by
  induction fs with
  | nil => rfl
  | cons g gs ih =>
    unfold updateNearest
    split
    · rcases hc with hc | hc <;> simp [adopt, hc]
    · simp [ih]

/-- A closed frame settles: an area registers into its layout, taking its claim along; any
other frame leaves the claims as they are. -/
theorem claims_settle (d : Document) (f : Frame) (pend : List (Option Value)) :
    claims pend (d.settle f).1.frames =
      if f.tag = "layoutarea" then claims (f.get? "position" :: pend) d.frames
      else claims pend d.frames := by
  rcases settle_cases d f with ⟨hr, e, h⟩ | ⟨-, k, c, p, hc, h⟩ | ⟨-, hc, h⟩
  · -- only a tag without a body, or a bound div, refuses one; an area is neither
    have ht : f.tag ≠ "layoutarea" := by
      rintro ht
      simp [refusesBody, ht, bodyless?] at hr
    rw [h, if_neg ht]
  · have hreg := eraseLog_register d f k
    rcases childOf?_cases hc with ⟨ht, rfl⟩ | ⟨ht, rfl⟩ | ⟨ht, rfl⟩
    · -- a column registers into its grid
      rw [h, if_neg (by rw [ht]; decide)]
      split at hreg
      · rw [claims_of_eraseLog hreg]
        exact claims_congr (map_opened_updateNearest _ _ _) (map_areas_updateNearest_grid (.inl ht) _) _
      · exact claims_of_eraseLog hreg pend
    · -- a row registers into its grid
      rw [h, if_neg (by rw [ht]; decide)]
      split at hreg
      · rw [claims_of_eraseLog hreg]
        exact claims_congr (map_opened_updateNearest _ _ _) (map_areas_updateNearest_grid (.inr ht) _) _
      · exact claims_of_eraseLog hreg pend
    · -- an area registers into its layout
      rw [h, if_pos ht]
      split at hreg
      · rw [claims_of_eraseLog hreg]
        exact claims_register_area ht pend d.frames
      · rename_i hnone
        have hfr : updateNearest .layout (adopt f) d.frames = d.frames :=
          updateNearest_of_nearest?_eq_none (by simpa using hnone)
        rw [claims_of_eraseLog hreg, ← claims_register_area ht pend d.frames, hfr]
  · have ht : f.tag ≠ "layoutarea" := by
      rintro ht
      simp [ht, childOf?] at hc
    rw [h, if_neg ht, claims_emit]

/-! ## Checks at the start of an area -/

theorem checkStart_area {fs : List Frame} {attrs₀ attrs : Attrs} {hasBody : Bool}
    (h : checkStart fs "layoutarea" attrs₀ hasBody = .ok attrs) : checkArea fs attrs₀ = .ok attrs := by
  simpa [checkStart] using h

/-- An area that starts in a border layout is at a border position that none of the layout's
registered areas holds; its attributes pass as they are. -/
theorem checkArea_border {fs : List Frame} {attrs attrs' : Attrs}
    (h : checkArea fs attrs = .ok attrs') {L : Frame} (hL : nearest? fs .layout = some L)
    (hb : isBorder L = true) :
    attrs' = attrs ∧ OnBorder (attrs.get? "position") ∧
      attrs.get? "position" ∉ L.areas.map (·.position) := by
  have hb' : (L.get? "type" != some (.str "border")) = false := by simpa [isBorder] using hb
  unfold checkArea at h
  rw [hL] at h
  simp only [hb', Bool.false_eq_true, if_false] at h
  split at h
  · cases h
  · rename_i hpos
    split at h
    · cases h
    · rename_i htaken
      cases h
      refine ⟨rfl, ?_, ?_⟩
      · -- the position is one of the border positions
        simp only [Bool.not_eq_true', Bool.not_eq_false, List.any_eq_true, beq_iff_eq] at hpos
        obtain ⟨s, hs, hp⟩ := hpos
        exact ⟨s, hs, hp⟩
      · -- no registered area holds it
        simp only [Bool.not_eq_true, List.any_eq_false, beq_iff_eq] at htaken
        intro hmem
        obtain ⟨a, ha, hap⟩ := List.mem_map.1 hmem
        exact htaken a ha hap

/-! ## The one failure of the check -/

/-- Whether an event starts an area of a border layout at a position that an area of the same
layout, still open, holds. -/
def reclaims (d : Document) : Event → Bool
  | .start tag raw hasBody =>
    match d.start tag raw hasBody with
    | .ok d' =>
      match d'.frames with
      | a :: _ =>
        a.tag == "layoutarea" && ((nearest? d.frames .layout).map isBorder).getD false &&
          (pendingPositions d.frames).contains (a.get? "position")
      | [] => false
    | .error _ => false
  | _ => false

/-- A start that opens a frame reclaims exactly when the frame is an area, the innermost layout
is a border one, and the area's position is one an open area of the layout holds. -/
theorem reclaims_start_cons {d d' : Document} {tag : String} {raw : Attrs} {hasBody : Bool}
    {a : Frame} {rest : List Frame} (h : d.start tag raw hasBody = .ok d')
    (hf : d'.frames = a :: rest) :
    d.reclaims (.start tag raw hasBody) =
      (a.tag == "layoutarea" && ((nearest? d.frames .layout).map isBorder).getD false &&
        (pendingPositions d.frames).contains (a.get? "position")) := by
  unfold reclaims
  simp only [h, hf]

/-- Whether some event of a run starts an area at a position an open area of its layout
holds. -/
def reclaimsIn (d : Document) : List Event → Bool
  | [] => false
  | ev :: evs => d.reclaims ev || reclaimsIn (d.step ev).1 evs

/-! ## One event -/

/-- A close takes no new position: every claim after it was a claim before. -/
theorem claims_close {d : Document} (hk : d.KindsDefined) (tag : String)
    {ps : List (Option Value)} (hps : ps ∈ claims [] (d.close tag).1.frames) :
    ps ∈ claims [] d.frames := by
  rcases close_cases d tag with ⟨e, h, -⟩ | ⟨td, f, rest, -, hf, -, h⟩
  · rw [h] at hps
    exact hps
  · rw [h, claims_settle] at hps
    simp only [popped, frames_note] at hps
    have hf' : f ∈ d.frames := by simp [hf]
    rw [hf]
    split at hps
    · -- a closed area's position moves from its layout's open areas to its registered ones
      rename_i ht
      rw [claims_cons_area (hk.area_kind hf' ht) ht]
      exact hps
    · rename_i ht
      by_cases hkf : f.kind = .layout
      · rw [claims_cons_layout hkf]
        exact List.mem_append_right _ hps
      · rw [claims_cons_other hkf ht]
        exact hps

/-- What one event does to the positions the open border layouts have taken: every claim
after it was a claim before, or is the empty claim of a fresh layout, or an area started in
the innermost layout, a border one, at a border position none of its registered areas holds,
and that layout's claim gained the position. -/
theorem claims_step {d : Document} (hk : d.KindsDefined) (ev : Event)
    {ps : List (Option Value)} (hps : ps ∈ claims [] (d.step ev).1.frames) :
    ps ∈ claims [] d.frames ∨ ps = [] ∨
      ∃ L p, nearest? d.frames .layout = some L ∧ isBorder L = true ∧ OnBorder p ∧
        p ∉ L.areas.map (·.position) ∧
        L.areas.map (·.position) ++ pendingPositions d.frames ∈ claims [] d.frames ∧
        ps = L.areas.map (·.position) ++ p :: pendingPositions d.frames ∧
        d.reclaims ev = (pendingPositions d.frames).contains p := by
  cases ev with
  | start tag raw hasBody =>
    cases h : d.start tag raw hasBody with
    | error e =>
      rw [step_start_error h] at hps
      exact .inl hps
    | ok d' =>
      rw [step_start_ok h] at hps
      obtain ⟨td, attrs₀, attrs, -, -, -, hcheck, rfl⟩ := start_eq_ok.1 h
      have hopen := eraseLog_openFrame d td attrs
      rw [claims_of_eraseLog hopen] at hps
      simp only at hps
      by_cases hkF : td.frame = .layout
      · -- a fresh layout has taken nothing
        rw [claims_cons_layout hkF] at hps
        simp only [List.map_nil, List.append_nil] at hps
        rcases List.mem_append.1 hps with hps | hps
        · split at hps
          · exact .inr (.inl (List.mem_singleton.1 hps))
          · cases hps
        · exact .inl hps
      · by_cases htF : td.name = "layoutarea"
        · -- a fresh area adds its position to its layout's open areas
          rw [claims_cons_area hkF htF, List.nil_append] at hps
          rcases mem_claims_cons hps with hps | ⟨L, hL, hb, hmem, rfl⟩
          · exact .inl hps
          · rw [htF] at hcheck
            obtain ⟨rfl, hon, hfree⟩ := checkArea_border (checkStart_area hcheck) hL hb
            have hframes : (d.openFrame td attrs).frames =
                { tag := td.name, kind := td.frame, id := (openId d.ids td attrs).1, attrs } ::
                  d.frames := by
              simpa using congrArg Document.frames hopen
            refine .inr (.inr ⟨L, _, hL, hb, hon, hfree, by simpa using hmem, by simp [Frame.get?], ?_⟩)
            rw [reclaims_start_cons h hframes]
            simp [htF, hL, hb, Frame.get?]
        · rw [claims_cons_other hkF htF] at hps
          exact .inl hps
  | write text =>
    rw [step_write, claims_write] at hps
    exact .inl hps
  | close tag =>
    rw [step_close] at hps
    exact .inl (claims_close hk tag hps)
  | finish =>
    rw [step_finish] at hps
    exact .inl hps

/-! ## Every run -/

/-- Every position an open border layout has taken is a border position. -/
def ClaimsOnBorder (d : Document) : Prop := ∀ ps ∈ claims [] d.frames, ∀ p ∈ ps, OnBorder p

/-- No position is taken twice in one open border layout. -/
def ClaimsApart (d : Document) : Prop := ∀ ps ∈ claims [] d.frames, ps.Nodup

theorem ClaimsOnBorder.step {d : Document} (hk : d.KindsDefined) (hb : d.ClaimsOnBorder)
    (ev : Event) : (d.step ev).1.ClaimsOnBorder := by
  intro ps hps p hp
  rcases claims_step hk ev hps with hps | rfl | ⟨L, q, -, -, hq, -, hmem, rfl, -⟩
  · exact hb ps hps p hp
  · cases hp
  · -- the new position is a border position; the others were taken before
    rcases List.mem_append.1 hp with hp | hp
    · exact hb _ hmem p (List.mem_append_left _ hp)
    · rcases List.mem_cons.1 hp with rfl | hp
      · exact hq
      · exact hb _ hmem p (List.mem_append_right _ hp)

theorem ClaimsApart.step {d : Document} (hk : d.KindsDefined) (ha : d.ClaimsApart) {ev : Event}
    (hr : d.reclaims ev = false) : (d.step ev).1.ClaimsApart := by
  intro ps hps
  rcases claims_step hk ev hps with hps | rfl | ⟨L, q, -, -, -, hfree, hmem, rfl, hrec⟩
  · exact ha ps hps
  · exact List.nodup_nil
  · -- the new position is neither registered into its layout nor held by an open area of it
    have hopen : q ∉ pendingPositions d.frames := by
      rw [hr] at hrec
      simpa using hrec.symm
    rw [List.perm_middle.nodup_iff]
    exact List.nodup_cons.2 ⟨by simp [hfree, hopen], ha _ hmem⟩

theorem kindsDefined_of_frames_nil {d : Document} (h : d.frames = []) : d.KindsDefined := by
  simp [KindsDefined, stack, h]

theorem claimsOnBorder_run {d : Document} (hk : d.KindsDefined) (hb : d.ClaimsOnBorder)
    (evs : List Event) : (d.run evs).KindsDefined ∧ (d.run evs).ClaimsOnBorder :=
  run_invariant (fun d => d.KindsDefined ∧ d.ClaimsOnBorder)
    (fun _ ev h => ⟨h.1.step ev, h.2.step h.1 ev⟩) ⟨hk, hb⟩ evs

theorem claimsApart_run {d : Document} (hk : d.KindsDefined) (ha : d.ClaimsApart)
    {evs : List Event} (hr : reclaimsIn d evs = false) : (d.run evs).ClaimsApart := by
  induction evs generalizing d with
  | nil => exact ha
  | cons ev evs ih =>
    simp only [reclaimsIn, Bool.or_eq_false_iff] at hr
    rw [run_cons]
    exact ih (hk.step ev) (ha.step hk hr.1) hr.2

/-- The areas of an open border layout are at border positions, when every position an open
border layout has taken is one. -/
theorem areas_onBorder {d : Document} (hon : d.ClaimsOnBorder) {L : Frame} (hL : L ∈ d.frames)
    (hk : L.kind = .layout) (htype : L.get? "type" = some (.str "border")) :
    ∀ a ∈ L.areas, OnBorder a.position := by
  intro a ha
  obtain ⟨ps, hps, hpre⟩ := areas_prefix_claim hL hk (isBorder_iff.2 htype) []
  exact hon ps hps a.position (hpre.subset (List.mem_map_of_mem ha))

/-- The areas of an open border layout are at distinct positions, when no open border layout
has taken a position twice. -/
theorem areas_apart {d : Document} (hap : d.ClaimsApart) {L : Frame} (hL : L ∈ d.frames)
    (hk : L.kind = .layout) (htype : L.get? "type" = some (.str "border")) :
    (L.areas.map (·.position)).Nodup := by
  obtain ⟨ps, hps, hpre⟩ := areas_prefix_claim hL hk (isBorder_iff.2 htype) []
  exact (hap ps hps).sublist hpre.sublist

end Document

open Document in
/-- The areas of the open border layouts of every state a session reaches from a document
with no open frame are at border positions. If no start of the run took the position of an
open area of its layout, each border layout's areas are at distinct positions, and each is the
area its region shows. -/
theorem border_areas_placed (d₀ : Document) (h₀ : d₀.frames = []) (evs : List Event) :
    (∀ L ∈ (d₀.run evs).frames, L.kind = .layout → L.get? "type" = some (.str "border") →
      ∀ a ∈ L.areas, ∃ s ∈ TagDef.borderPositions, a.position = some (.str s)) ∧
    (reclaimsIn d₀ evs = false →
      ∀ L ∈ (d₀.run evs).frames, L.kind = .layout → L.get? "type" = some (.str "border") →
        (L.areas.map (·.position)).Nodup ∧
        ∀ a ∈ L.areas, ∃ s, a.position = some (.str s) ∧
          LayoutView.at? (LayoutView.ofFrame L).areas s = some (LayoutView.area a (.str "border"))) := by
  have hk₀ : d₀.KindsDefined := kindsDefined_of_frames_nil h₀
  have hclaims₀ : claims [] d₀.frames = [] := by rw [h₀]; rfl
  obtain ⟨-, hon⟩ := claimsOnBorder_run hk₀ (by simp [ClaimsOnBorder, hclaims₀]) evs
  refine ⟨fun L hL hk htype => areas_onBorder hon hL hk htype, ?_⟩
  intro hr L hL hk htype
  have hnd : (L.areas.map (·.position)).Nodup :=
    areas_apart (claimsApart_run hk₀ (by simp [ClaimsApart, hclaims₀]) hr) hL hk htype
  refine ⟨hnd, ?_⟩
  intro a ha
  obtain ⟨s, -, hs⟩ := areas_onBorder hon hL hk htype a ha
  refine ⟨s, hs, ?_⟩
  rw [LayoutView.areas_ofFrame, htype]
  exact LayoutView.at?_area hnd ha hs _

/-- A border layout with an area at the top and one at the bottom, started one after the
other: the two are at distinct positions. -/
theorem top_bottom_areas_apart :
    Document.reclaimsIn { config := {}, ids := .counter 0 }
        [.start "layout" [("type", .str "border")] true,
         .start "layoutarea" [("position", .str "top")] false, .close "layoutarea",
         .start "layoutarea" [("position", .str "bottom")] false, .close "layoutarea"] = false ∧
      ∀ L ∈ (({ config := {}, ids := .counter 0 } : Document).run
        [.start "layout" [("type", .str "border")] true,
         .start "layoutarea" [("position", .str "top")] false, .close "layoutarea",
         .start "layoutarea" [("position", .str "bottom")] false, .close "layoutarea"]).frames,
        L.kind = .layout → L.get? "type" = some (.str "border") → (L.areas.map (·.position)).Nodup :=
  ⟨by decide, fun L hL hk htype => ((border_areas_placed _ rfl _).2 (by decide) L hL hk htype).1⟩

/-- An area at the top of a border layout that holds another area at the top: when both have
closed, the layout holds two areas at the top, and its top region shows only the second one
registered, the outer area. -/
theorem nested_areas_share_region :
    (({ config := {}, ids := .counter 0 } : Document).run
      [.start "layout" [("type", .str "border")] true,
       .start "layoutarea" [("position", .str "top")] true,
       .start "layoutarea" [("position", .str "top")] false,
       .close "layoutarea", .close "layoutarea"]).frames.map
      (fun L => (L.areas.map (·.position),
        (LayoutView.at? (LayoutView.ofFrame L).areas "top").map AreaView.data)) =
      [([some (.str "top"), some (.str "top")], some [("data-area-index", "1")])] := by
  rfl

end UiTags
