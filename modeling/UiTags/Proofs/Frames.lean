import UiTags.Proofs.Session

/-!
# Well-formed frames

Every state a session reaches keeps its frames in order. Only the innermost frame is ever
removed, so the frames beneath an open frame are those that were open when it was pushed. A
grid frame holds only columns and rows, a layout frame only areas, any other frame nothing;
each registered child sits at its own index in its list. And every open column, row or area
has a frame of its parent's kind beneath it, so when it closes it registers into the frame its
start found.

Main results:

- `Document.Wf.step`: one event keeps the frames well formed.
- `Document.parent_at_close`: when a child is innermost again, the frame it registers into is
  the one its start found.
- `frames_well_formed`: the stack discipline and both invariants hold in every state reached
  from a document with no open frame.
-/

namespace UiTags

/-! ## Looking up and updating the innermost frame of a kind -/

namespace Document

theorem nearest?_isSome_iff {fs : List Frame} {k : FrameKind} :
    (nearest? fs k).isSome ↔ ∃ q ∈ fs, q.kind = k := by
  simp [nearest?, List.find?_isSome]

/-- The innermost frame of a kind depends only on how the frames were opened. -/
theorem map_opened_nearest? {fs gs : List Frame} (h : fs.map Frame.opened = gs.map Frame.opened)
    (k : FrameKind) : (nearest? fs k).map Frame.opened = (nearest? gs k).map Frame.opened := by
  induction fs generalizing gs with
  | nil =>
    cases gs with
    | nil => rfl
    | cons g gs => cases h
  | cons f fs ih =>
    cases gs with
    | nil => cases h
    | cons g gs =>
      simp only [List.map_cons, List.cons.injEq] at h
      obtain ⟨hfg, hrest⟩ := h
      have hkind : f.kind = g.kind := by
        rw [← Frame.opened_kind f, hfg, Frame.opened_kind]
      unfold nearest?
      by_cases hk : f.kind = k
      · have hk' : g.kind = k := hkind ▸ hk
        simp [hk, hk', hfg]
      · have hk' : ¬g.kind = k := hkind ▸ hk
        have hb : (f.kind == k) = false := by simpa using hk
        have hb' : (g.kind == k) = false := by simpa using hk'
        simp only [List.find?_cons, hb, hb']
        exact ih hrest

/-- A frame after the innermost frame of a kind is updated: one that was there, or the update
of a frame of that kind. -/
theorem mem_updateNearest {k : FrameKind} {g : Frame → Frame} {fs : List Frame} {q : Frame}
    (hq : q ∈ updateNearest k g fs) : q ∈ fs ∨ ∃ p ∈ fs, p.kind = k ∧ q = g p := by
  induction fs with
  | nil => cases hq
  | cons f fs ih =>
    unfold updateNearest at hq
    split at hq
    · rename_i hk
      rcases List.mem_cons.1 hq with rfl | hq
      · exact .inr ⟨f, List.mem_cons_self, by simpa using hk, rfl⟩
      · exact .inl (List.mem_cons_of_mem f hq)
    · rcases List.mem_cons.1 hq with rfl | hq
      · exact .inl List.mem_cons_self
      · rcases ih hq with hq | ⟨p, hp, hk, rfl⟩
        · exact .inl (List.mem_cons_of_mem f hq)
        · exact .inr ⟨p, List.mem_cons_of_mem f hp, hk, rfl⟩

/-- The tags that register into a parent, with the kind of frame each needs. -/
theorem childOf?_cases {tag child parent : String} {k : FrameKind}
    (h : childOf? tag = some (k, child, parent)) :
    (tag = "gridcolumn" ∧ k = .grid) ∨ (tag = "gridrow" ∧ k = .grid) ∨
      (tag = "layoutarea" ∧ k = .layout) := by
  unfold childOf? at h
  split at h
  · simp_all
  · simp_all
  · simp_all
  · cases h

end Document

/-! ## What a frame holds -/

namespace Frame

/-- A frame holds only what its kind takes, each registered child at its own index. -/
structure Sound (f : Frame) : Prop where
  columns_index : f.columns.map (·.index) = List.range f.columns.length
  rows_index : f.rows.map (·.index) = List.range f.rows.length
  areas_index : f.areas.map (·.index) = List.range f.areas.length
  /-- Columns and rows only in grid frames. -/
  grid_only : f.columns ≠ [] ∨ f.rows ≠ [] → f.kind = .grid
  /-- Areas only in layout frames. -/
  layout_only : f.areas ≠ [] → f.kind = .layout

/-- Body text does not change what a frame holds. -/
theorem Sound.body {f : Frame} (hf : f.Sound) (body : List String) : { f with body }.Sound where
  columns_index := hf.columns_index
  rows_index := hf.rows_index
  areas_index := hf.areas_index
  grid_only := hf.grid_only
  layout_only := hf.layout_only

/-- Appending an item numbered by the list's length keeps every item at its own index. -/
theorem map_index_append {α : Type} (index : α → Nat) {xs : List α} (x : α)
    (hxs : xs.map index = List.range xs.length) (hx : index x = xs.length) :
    (xs ++ [x]).map index = List.range (xs ++ [x]).length := by
  rw [List.map_append, hxs, List.length_append, List.length_singleton, List.range_succ]
  simp [hx]

/-- A parent of the kind a child needs stays sound when the child registers into it. -/
theorem Sound.adopt {c p : Frame} {k : FrameKind} {child parent : String} (hp : p.Sound)
    (hc : Document.childOf? c.tag = some (k, child, parent)) (hk : p.kind = k) :
    (Document.adopt c p).Sound := by
  rcases Document.childOf?_cases hc with ⟨ht, rfl⟩ | ⟨ht, rfl⟩ | ⟨ht, rfl⟩
  · -- a column, at the next column index of a grid
    simp only [Document.adopt, ht]
    exact
      { columns_index := map_index_append Column.index _ hp.columns_index rfl
        rows_index := hp.rows_index
        areas_index := hp.areas_index
        grid_only := fun _ => hk
        layout_only := hp.layout_only }
  · -- a row, at the next row index of a grid
    simp only [Document.adopt, ht]
    exact
      { columns_index := hp.columns_index
        rows_index := map_index_append Row.index _ hp.rows_index rfl
        areas_index := hp.areas_index
        grid_only := fun _ => hk
        layout_only := hp.layout_only }
  · -- an area, at the next area index of a layout
    simp only [Document.adopt, ht]
    exact
      { columns_index := hp.columns_index
        rows_index := hp.rows_index
        areas_index := map_index_append Area.index _ hp.areas_index rfl
        grid_only := hp.grid_only
        layout_only := fun _ => hk }

end Frame

/-! ## Parents beneath children -/

namespace Document

/-- Every open child frame has an open frame of its parent's kind beneath it. -/
def ParentsBelow : List Frame → Prop
  | [] => True
  | f :: fs => (∀ k c p, childOf? f.tag = some (k, c, p) → ∃ q ∈ fs, q.kind = k) ∧
      ParentsBelow fs

/-- Whether children have parents beneath them depends only on how the frames were opened. -/
theorem ParentsBelow.of_map_opened {fs gs : List Frame}
    (h : fs.map Frame.opened = gs.map Frame.opened) (hfs : ParentsBelow fs) : ParentsBelow gs := by
  induction fs generalizing gs with
  | nil =>
    cases gs with
    | nil => trivial
    | cons g gs => cases h
  | cons f fs ih =>
    cases gs with
    | nil => cases h
    | cons g gs =>
      simp only [List.map_cons, List.cons.injEq] at h
      obtain ⟨hfg, hrest⟩ := h
      obtain ⟨hf, hfs⟩ := hfs
      refine ⟨?_, ih hrest hfs⟩
      intro k c p hc
      have htag : f.tag = g.tag := by
        rw [← Frame.opened_tag f, hfg, Frame.opened_tag]
      obtain ⟨q, hq, hqk⟩ := hf k c p (htag ▸ hc)
      have hmem : q.opened ∈ gs.map Frame.opened := by
        rw [← hrest]
        exact List.mem_map_of_mem hq
      obtain ⟨q', hq', hqq'⟩ := List.mem_map.1 hmem
      refine ⟨q', hq', ?_⟩
      rw [← Frame.opened_kind q', hqq', Frame.opened_kind, hqk]

/-! ## The invariant of every reachable state -/

/-- The frames of a document are well formed: each holds what its kind takes, at its own
indexes, and every open child has a frame of its parent's kind beneath it. -/
structure Wf (d : Document) : Prop where
  sound : ∀ f ∈ d.frames, f.Sound
  parents : ParentsBelow d.frames

theorem wf_of_frames_nil {d : Document} (h : d.frames = []) : d.Wf where
  sound := by simp [h]
  parents := by simp [h, ParentsBelow]

/-- Documents that agree but for their logs are well formed together. -/
theorem Wf.of_eraseLog {d d' : Document} (h : d.eraseLog = d'.eraseLog) (hd : d.Wf) : d'.Wf := by
  have hframes : d.frames = d'.frames := by simpa using congrArg Document.frames h
  exact ⟨hframes ▸ hd.sound, hframes ▸ hd.parents⟩

theorem Wf.write {d : Document} (hd : d.Wf) (text : String) : (d.write text).Wf := by
  refine ⟨?_, ParentsBelow.of_map_opened (stack_write d text).symm hd.parents⟩
  intro f hf
  unfold Document.write at hf
  split at hf
  · exact hd.sound f hf
  · rename_i g rest hframes
    rcases List.mem_cons.1 hf with rfl | hf
    · exact (hd.sound g (by simp [hframes])).body _
    · exact hd.sound f (by simp [hframes, hf])

theorem Wf.register {d : Document} (hd : d.Wf) {f : Frame} {k : FrameKind} {c p : String}
    (hc : childOf? f.tag = some (k, c, p)) : (d.register f k).Wf := by
  have h := eraseLog_register d f k
  split at h
  · refine ⟨?_, ?_⟩
    · intro q hq
      have hframes := congrArg Document.frames h
      simp only [frames_eraseLog] at hframes
      have hq' : q ∈ updateNearest k (adopt f) d.frames := hframes ▸ hq
      rcases mem_updateNearest hq' with hq | ⟨r, hr, hk, rfl⟩
      · exact hd.sound q hq
      · exact (hd.sound r hr).adopt hc hk
    · have hstack := stack_register d f k
      exact ParentsBelow.of_map_opened hstack.symm hd.parents
  · exact hd.of_eraseLog h.symm

theorem Wf.emit {d : Document} (hd : d.Wf) (f : Frame) : (d.emit f).1.Wf := by
  rcases emit_cases d f with ⟨-, -, h⟩ | ⟨o, -, -, h⟩
  · exact hd.of_eraseLog h.symm
  · exact (hd.write o.text).of_eraseLog h.symm

theorem Wf.settle {d : Document} (hd : d.Wf) (f : Frame) : (d.settle f).1.Wf := by
  rcases settle_cases d f with ⟨-, e, h⟩ | ⟨-, k, c, p, hc, h⟩ | ⟨-, -, h⟩ <;> rw [h]
  · exact hd
  · exact hd.register hc
  · exact hd.emit f

theorem Wf.close {d : Document} (hd : d.Wf) (tag : String) : (d.close tag).1.Wf := by
  rcases close_cases d tag with ⟨e, h, -⟩ | ⟨td, f, rest, -, hf, -, h⟩ <;> rw [h]
  · exact hd
  · -- the frames beneath the innermost one are well formed on their own
    have hrest : ({ d with frames := rest } : Document).Wf := by
      have hsound := hd.sound
      have hparents := hd.parents
      rw [hf] at hsound hparents
      exact ⟨fun g hg => hsound g (List.mem_cons_of_mem f hg), hparents.2⟩
    exact (hrest.of_eraseLog (eraseLog_popped d f rest).symm).settle f

theorem Wf.start {d d' : Document} (hd : d.Wf) {tag : String} {raw : Attrs} {hasBody : Bool}
    (h : d.start tag raw hasBody = .ok d') : d'.Wf := by
  obtain ⟨td, attrs₀, attrs, htd, hparent, -, -, rfl⟩ := start_eq_ok.1 h
  refine Wf.of_eraseLog (eraseLog_openFrame d td attrs).symm ⟨?_, ?_⟩
  · intro f hf
    rcases List.mem_cons.1 hf with rfl | hf
    · -- the fresh frame holds nothing yet
      exact ⟨rfl, rfl, rfl, by simp, by simp⟩
    · exact hd.sound f hf
  · -- the start's parent check found a frame of the parent's kind
    refine ⟨fun k c p hc => nearest?_isSome_iff.1 (hparent k c p hc), hd.parents⟩

/-- One event keeps the frames well formed. -/
theorem Wf.step {d : Document} (hd : d.Wf) (ev : Event) : (d.step ev).1.Wf := by
  cases ev with
  | start tag raw hasBody =>
    cases h : d.start tag raw hasBody with
    | error e =>
      rw [step_start_error h]
      exact hd
    | ok d' =>
      rw [step_start_ok h]
      exact hd.start h
  | write text => exact hd.write text
  | close tag => exact hd.close tag
  | finish =>
    rw [step_finish]
    exact hd

theorem Wf.run {d : Document} (hd : d.Wf) (evs : List Event) : (d.run evs).Wf :=
  run_invariant Wf (fun _ ev h => h.step ev) hd evs

/-! ## The parent a child registers into -/

/-- A child's close finds a parent: in a well-formed document whose innermost frame is a
child, the frames beneath it hold a frame of the parent's kind. -/
theorem Wf.parent_exists {d : Document} (hd : d.Wf) {f : Frame} {rest : List Frame}
    (hf : d.frames = f :: rest) {k : FrameKind} {c p : String}
    (hc : childOf? f.tag = some (k, c, p)) : ∃ parent, nearest? rest k = some parent := by
  have hp := hd.parents
  rw [hf] at hp
  exact Option.isSome_iff_exists.1 (nearest?_isSome_iff.2 (hp.1 k c p hc))

/-- When a child that a start opened is innermost again, and the run in between never closed
it, the frames beneath it are those open at its start; so the innermost frame of the parent's
kind beneath it, which its close registers into, is the one its start found. -/
theorem parent_at_close {d d₁ : Document} {tag : String} {raw : Attrs} {hasBody : Bool}
    (hstart : d.start tag raw hasBody = .ok d₁) {evs : List Event}
    (hopen : ∀ n, d₁.depth ≤ (d₁.run (evs.take n)).depth)
    (hdepth : (d₁.run evs).depth = d₁.depth) (k : FrameKind) :
    ∃ f rest, (d₁.run evs).frames = f :: rest ∧ rest.map Frame.opened = stack d ∧
      (nearest? rest k).map Frame.opened = (nearest? d.frames k).map Frame.opened := by
  obtain ⟨td, attrs, -, h⟩ := start_ok_eraseLog hstart
  have hpush : stack d₁ = _ :: stack d := stack_eq_of_eraseLog h
  have hbase := base_run hopen
  unfold base at hbase
  simp only [hdepth, Nat.sub_self, List.drop_zero, hpush] at hbase
  cases hfr : (d₁.run evs).frames with
  | nil => simp [stack, hfr] at hbase
  | cons f rest =>
    simp only [stack, hfr, List.map_cons, List.cons.injEq] at hbase
    exact ⟨f, rest, rfl, hbase.2, map_opened_nearest? hbase.2 k⟩

end Document

open Document in
/-- The frames of every state a session reaches from a document with no open frame are in
order. (a) Each event keeps the stack, pushes one frame or pops the innermost, so while a run
keeps at least as many frames open, the frames open now stay beneath, as they were opened.
(b) Grid frames hold only columns and rows, layout frames only areas, other frames nothing,
and every column, row and area sits at its own index. (c) Every open column, row or area has a
frame of its parent's kind beneath it, so its close registers into a parent, the one its start
found. -/
theorem frames_well_formed (d₀ : Document) (h₀ : d₀.frames = []) (evs : List Event) :
    (∀ ev, stack ((d₀.run evs).step ev).1 = stack (d₀.run evs) ∨
      (∃ f, stack ((d₀.run evs).step ev).1 = f :: stack (d₀.run evs)) ∨
      ∃ f, stack (d₀.run evs) = f :: stack ((d₀.run evs).step ev).1) ∧
    (∀ evs', (∀ n, (d₀.run evs).depth ≤ ((d₀.run evs).run (evs'.take n)).depth) →
      stack (d₀.run evs) <:+ stack ((d₀.run evs).run evs')) ∧
    (∀ f ∈ (d₀.run evs).frames, f.Sound) ∧
    ParentsBelow (d₀.run evs).frames ∧
    (∀ f rest k c p, (d₀.run evs).frames = f :: rest → childOf? f.tag = some (k, c, p) →
      ∃ parent, nearest? rest k = some parent) ∧
    (∀ tag raw hasBody d₁, (d₀.run evs).start tag raw hasBody = .ok d₁ →
      ∀ evs', (∀ n, d₁.depth ≤ (d₁.run (evs'.take n)).depth) →
        (d₁.run evs').depth = d₁.depth → ∀ k,
        ∃ f rest, (d₁.run evs').frames = f :: rest ∧ rest.map Frame.opened = stack (d₀.run evs) ∧
          (nearest? rest k).map Frame.opened = (nearest? (d₀.run evs).frames k).map Frame.opened) := by
  have hwf : (d₀.run evs).Wf := (wf_of_frames_nil h₀).run evs
  refine ⟨stack_step _, fun evs' h => stack_suffix_run h, hwf.sound, hwf.parents, ?_, ?_⟩
  · intro f rest k c p hf hc
    exact hwf.parent_exists hf hc
  · intro tag raw hasBody d₁ hstart evs' hopen hdepth k
    exact parent_at_close hstart hopen hdepth k

/-- A fresh document has no open frame, so every state a session reaches from it has its
frames in order. -/
theorem fresh_frames_well_formed :
    ({ config := {}, ids := .counter 0 } : Document).frames = [] ∧
    ∀ f ∈ (({ config := {}, ids := .counter 0 } : Document).run
      [.start "grid" [("name", .str "g")] true, .start "gridcolumn" [("name", .str "a")] false,
       .close "gridcolumn"]).frames, f.Sound :=
  ⟨rfl, (frames_well_formed _ rfl _).2.2.1⟩

end UiTags
