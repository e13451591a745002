import UiTags.Proofs.RenderFailures
import UiTags.Proofs.ValidatedAttrs
import UiTags.Proofs.GridRows
import Mathlib.Tactic.SplitIfs

/-!
# The cells of a grid's table

A grid is written as a table: a header row with a selection header and one header cell per
column, then body rows with a selection cell and one cell per column. Three parts of the markup
decide the selection column each by its own test of the selection mode: the header writes its
selection header when the mode is not `none`, and its select-all box when it is `multi`; a row
writes a check box when the mode is `multi` and a radio button when it is `single`; the column
span of the row that says there is no data counts the selection column when the mode is not
`none`. The three agree exactly when the mode is one of the three modes a grid declares.

Cells are counted in the markup by their start tags: `openings name s` is the number of places
where `s` has a `<` followed by `name`, so `openings "th "` counts header cells and
`openings "td "` body cells. Every text a grid places into its markup is escaped and holds no
`<`, so only the markup's own tags are counted.

Validation keeps the mode to the three modes, and `multirowselect` sets it to `multi`, as long
as no two attribute names of the grid are equal once lowered. Two such names let a mode through
unchecked: the header then has a selection column and the rows have none.

Main results:

- `Html.openings_join_append`: pieces that each add the same number of openings add it once
  per piece.
- `GridView.headerPart_cells`, `GridView.rowPart_cells`: the header has the selection header
  when the mode is not `none` and a cell per column; a row has the selection cell when the mode
  is `multi` or `single` and a cell per column.
- `GridView.aligned_of_mode`: a view whose mode is one of the three modes has a consistent table.
- `Document.selectsByMode_run`: with attribute names distinct up to case, every open grid frame
  has one of the three modes.
- `grid_cells_agree`: every grid a session opens renders a consistent table.
- `colliding_select_mode_misaligned`: a mode written twice in different case leaves the rows
  one cell short of the header.
-/

namespace UiTags

/-! ## Counting start tags -/

namespace Html

/-- The number of places in a text where a `<` is followed by `name`: with `name` a tag name and
a blank, the start tags of that element. -/
def openings (name : String) : List Char → Nat
  | [] => 0
  | '<' :: cs => (if name.toList.isPrefixOf cs then 1 else 0) + openings name cs
  | _ :: cs => openings name cs

variable {name : String}

theorem openings_cons_of_ne {c : Char} (hc : c ≠ '<') (cs : List Char) :
    openings name (c :: cs) = openings name cs := by
  exact openings.eq_3 name c cs hc

/-- A text without `<` starts no tag, whatever follows it. -/
theorem openings_free_append {a : List Char} (h : '<' ∉ a) (rest : List Char) :
    openings name (a ++ rest) = openings name rest := by
  induction a with
  | nil => rfl
  | cons c a ih =>
    simp only [List.mem_cons, not_or] at h
    rw [List.cons_append, openings_cons_of_ne (Ne.symm h.1), ih h.2]

/-- Pieces that each add `n` openings in front of any text add `n` per piece. -/
theorem openings_join_append {α : Type} {f : α → String} {n : Nat} {l : List α}
    (h : ∀ x ∈ l, ∀ rest, openings name ((f x).toList ++ rest) = n + openings name rest)
    (rest : List Char) :
    openings name ((l.map f).flatMap String.toList ++ rest) =
      n * l.length + openings name rest := by
  induction l with
  | nil => simp
  | cons x xs ih =>
    simp only [List.forall_mem_cons] at h
    rw [List.map_cons, List.flatMap_cons, List.append_assoc, h.1, ih h.2, List.length_cons,
      Nat.mul_succ]
    omega

theorem lt_not_mem_escapeChar (c : Char) : '<' ∉ escapeChar c := by
  unfold escapeChar
  split_ifs with _ hlt <;> simp
  -- only the character kept as it is could be a `<`, and the second test excludes it
  simp only [beq_iff_eq] at hlt
  exact Ne.symm hlt

theorem lt_not_mem_escape (s : String) : '<' ∉ (escape s).toList := by
  rw [escape, String.toList_ofList, List.mem_flatMap]
  rintro ⟨c, -, hc⟩
  exact lt_not_mem_escapeChar c hc

theorem lt_not_mem_attrPairs (pairs : List (String × String)) :
    '<' ∉ (attrPairs pairs).toList := by
  rw [attrPairs, String.toList_join, List.mem_flatMap]
  rintro ⟨s, hs, hlt⟩
  obtain ⟨p, -, rfl⟩ := List.mem_map.1 hs
  simp [lt_not_mem_escape] at hlt

theorem lt_not_mem_toDigits (n : Nat) : '<' ∉ Nat.toDigits 10 n := by
  intro h
  simpa using Nat.isDigit_of_mem_toDigits (by decide) (by decide) h

@[simp] theorem openings_escape_append (s : String) (rest : List Char) :
    openings name ((escape s).toList ++ rest) = openings name rest :=
  openings_free_append (lt_not_mem_escape s) rest

@[simp] theorem openings_text_append (v : Value) (rest : List Char) :
    openings name ((text v).toList ++ rest) = openings name rest :=
  openings_escape_append v.text rest

@[simp] theorem openings_attrPairs_append (pairs : List (String × String)) (rest : List Char) :
    openings name ((attrPairs pairs).toList ++ rest) = openings name rest :=
  openings_free_append (lt_not_mem_attrPairs pairs) rest

/-- A number, written in decimal digits, starts no tag. -/
@[simp] theorem openings_toDigits_append (n : Nat) (rest : List Char) :
    openings name (Nat.toDigits 10 n ++ rest) = openings name rest :=
  openings_free_append (lt_not_mem_toDigits n) rest

end Html

/-! ## The cells of a grid view -/

namespace GridView

open Html

theorem lt_not_mem_styleAttr (s : String) : '<' ∉ (styleAttr s).toList := by
  unfold styleAttr
  split <;> simp [lt_not_mem_escape]

@[simp] theorem openings_styleAttr_append {t : String} (s : String) (rest : List Char) :
    openings t ((styleAttr s).toList ++ rest) = openings t rest :=
  openings_free_append (lt_not_mem_styleAttr s) rest

/-- A cell's content opens an image or a link, never a cell or an input. -/
theorem openings_cellContent_append {t : String}
    (ht : t ∈ ["td ", "input type=\"checkbox\"", "input type=\"radio\""])
    (c : CellView) (rest : List Char) :
    openings t ((cellContent c).toList ++ rest) = openings t rest := by
  simp only [List.mem_cons, List.not_mem_nil, or_false] at ht
  unfold cellContent
  -- an image, the text alone, or a link with or without a target
  by_cases himg : (c.type == .str "image" && !c.text.isEmpty) = true
  · rcases ht with rfl | rfl | rfl <;> simp [himg, openings]
  cases hh : c.href with
  | none => simp [himg]
  | some h =>
    by_cases he : h.isEmpty = true
    · simp [himg, he]
    cases htg : c.target with
    | none => rcases ht with rfl | rfl | rfl <;> simp [himg, he, openings]
    | some v =>
      by_cases hv : v.truthy = true <;> rcases ht with rfl | rfl | rfl <;>
        simp [himg, he, hv, openings]

/-- A column writes one header cell, and no check box. -/
theorem headerCell_openings (c : ColumnView) (rest : List Char) :
    openings "th " ((headerCell c).toList ++ rest) = 1 + openings "th " rest ∧
      openings "input type=\"checkbox\"" ((headerCell c).toList ++ rest) =
        0 + openings "input type=\"checkbox\"" rest := by
  unfold headerCell
  simp only [String.toList_append, List.append_assoc, apply_ite String.toList,
    -String.reduceAppend]
  by_cases hs : c.sortable <;> simp [hs, openings]

/-- A row writes one cell for each column, and no input in it. -/
theorem bodyCell_openings (c : CellView) (rest : List Char) :
    openings "td " ((bodyCell c).toList ++ rest) = 1 + openings "td " rest ∧
      openings "input type=\"checkbox\"" ((bodyCell c).toList ++ rest) =
        0 + openings "input type=\"checkbox\"" rest ∧
      openings "input type=\"radio\"" ((bodyCell c).toList ++ rest) =
        0 + openings "input type=\"radio\"" rest := by
  unfold bodyCell
  simp only [String.toList_append, List.append_assoc, apply_ite String.toList,
    -String.reduceAppend]
  by_cases hr : c.readonly <;> simp [hr, openings, openings_cellContent_append]

set_option maxRecDepth 4000 in
/-- The header row has the selection header when the mode is not `none`, then a cell per
column; its one check box is the select-all box, when the mode is `multi`. -/
theorem headerPart_openings (g : GridView) (rest : List Char) :
    openings "th " ((headerPart g).toList ++ rest) =
        (if g.selectMode != .str "none" then 1 else 0) + g.columns.length +
          openings "th " rest ∧
      openings "input type=\"checkbox\"" ((headerPart g).toList ++ rest) =
        (if g.selectMode == .str "multi" then 1 else 0) + openings "input type=\"checkbox\"" rest := by
  have hcells := openings_join_append (l := g.columns) fun c _ rest =>
    (headerCell_openings c rest).1
  have hboxes := openings_join_append (l := g.columns) fun c _ rest =>
    (headerCell_openings c rest).2
  unfold headerPart
  simp only [String.toList_append, List.append_assoc, apply_ite String.toList,
    -String.reduceAppend]
  by_cases hsel : (g.selectMode != .str "none") = true
  · by_cases hmulti : (g.selectMode == .str "multi") = true <;>
      simp [hsel, hmulti, openings, hcells, hboxes] <;> omega
  · -- a grid that selects nothing has mode `none`, which is not `multi`
    have hnone : g.selectMode = .str "none" := by simpa using hsel
    simp [hnone, openings, hcells, hboxes]

set_option maxRecDepth 4000 in
/-- A row has the selection cell when the mode is `multi` or `single`, then a cell per column;
the selection cell is a check box when the mode is `multi` and a radio button when it is
`single`. -/
theorem rowPart_openings (g : GridView) (r : RowView) (rest : List Char) :
    openings "td " ((rowPart g r).toList ++ rest) =
        (if g.selectMode == .str "multi" || g.selectMode == .str "single" then 1 else 0) +
          r.cells.length + openings "td " rest ∧
      openings "input type=\"checkbox\"" ((rowPart g r).toList ++ rest) =
        (if g.selectMode == .str "multi" then 1 else 0) + openings "input type=\"checkbox\"" rest ∧
      openings "input type=\"radio\"" ((rowPart g r).toList ++ rest) =
        (if g.selectMode == .str "single" then 1 else 0) + openings "input type=\"radio\"" rest := by
  have hcells := openings_join_append (l := r.cells) fun c _ rest => (bodyCell_openings c rest).1
  have hboxes := openings_join_append (l := r.cells) fun c _ rest =>
    (bodyCell_openings c rest).2.1
  have hradios := openings_join_append (l := r.cells) fun c _ rest =>
    (bodyCell_openings c rest).2.2
  unfold rowPart
  simp only [String.toList_append, List.append_assoc, apply_ite String.toList,
    -String.reduceAppend]
  by_cases hmulti : (g.selectMode == .str "multi") = true
  · -- a grid that selects many rows has mode `multi`, which is not `single`
    have hm : g.selectMode = .str "multi" := by simpa using hmulti
    simp [hm, openings, hcells, hboxes, hradios, Nat.add_assoc]
  · by_cases hsingle : (g.selectMode == .str "single") = true <;>
      simp [hmulti, hsingle, openings, hcells, hboxes, hradios, Nat.add_assoc]

/-! ## A consistent table -/

/-- A grid's table is consistent: its column span counts the columns and, when the mode is not
`none`, the selection column; the header row has as many cells as the span, and so has every
body row; a row's selection cell is a check box exactly when the header has its select-all box,
and a radio button exactly when the mode is `single`; and the row that says there is no data
spans as many columns as the header has cells. -/
structure Aligned (g : GridView) : Prop where
  span : g.colspan = g.columns.length + if g.selectMode != .str "none" then 1 else 0
  header : openings "th " g.headerPart.toList = g.colspan
  rows : ∀ r ∈ g.rows, openings "td " (g.rowPart r).toList = g.colspan
  checkboxes : ∀ r ∈ g.rows,
    openings "input type=\"checkbox\"" (g.rowPart r).toList = openings "input type=\"checkbox\"" g.headerPart.toList
  radios : ∀ r ∈ g.rows,
    openings "input type=\"radio\"" (g.rowPart r).toList = if g.selectMode == .str "single" then 1 else 0
  placeholder : g.rows = [] → g.hasQuery = true →
    List.IsInfix ("<td class=\"bx-grid-empty\" colspan=\"" ++
      toString (openings "th " g.headerPart.toList) ++ "\">").toList g.render.toList

/-- Counting over a whole part is counting in front of nothing. -/
theorem openings_of_append_nil {t : String} {s : String} {n : Nat}
    (h : openings t (s.toList ++ []) = n + openings t []) : openings t s.toList = n := by
  simpa [openings] using h

/-- A grid without rows that has a query writes the row saying there is no data, whose cell
spans the grid's column span. -/
theorem render_placeholder {g : GridView} (h : g.rows = []) (hq : g.hasQuery = true) :
    List.IsInfix ("<td class=\"bx-grid-empty\" colspan=\"" ++ toString g.colspan ++ "\">").toList
      g.render.toList := by
  obtain ⟨top, bottom, -, hrender⟩ := render_hasQuery_of_nil { g with hasQuery := false } h rfl
  have hg : { { g with hasQuery := false } with hasQuery := true } = g := by
    cases g
    cases hq
    rfl
  rw [hg] at hrender
  -- the row opens, then its one cell opens with the span
  have hopen : "            <tr class=\"bx-grid-empty-row\"><td class=\"bx-grid-empty\" colspan=\"" =
      "            <tr class=\"bx-grid-empty-row\">" ++ "<td class=\"bx-grid-empty\" colspan=\"" := by
    decide
  have hclose : "\">No data available</td></tr>\n" = "\">" ++ "No data available</td></tr>\n" := by
    decide
  rw [hrender, hopen, hclose]
  exact ⟨(top ++ "            <tr class=\"bx-grid-empty-row\">").toList,
    ("No data available</td></tr>\n" ++ bottom).toList, by simp⟩

/-- **A consistent table.** A grid view whose mode is one of the three modes, whose column span
counts its columns and the selection column when the mode is not `none`, and whose rows have a
cell per column, writes a consistent table. -/
theorem aligned_of_mode {g : GridView} (hmode : ∃ m ∈ TagDef.selectModes, g.selectMode = .str m)
    (hspan : g.colspan = g.columns.length + if g.selectMode != .str "none" then 1 else 0)
    (hcells : ∀ r ∈ g.rows, r.cells.length = g.columns.length) : g.Aligned := by
  obtain ⟨m, hm, hsm⟩ := hmode
  have hheader := openings_of_append_nil (headerPart_openings g []).1
  -- the three tests of the mode agree on each of the three modes
  have hselect : (if g.selectMode == .str "multi" || g.selectMode == .str "single" then 1 else 0) =
      if g.selectMode != .str "none" then 1 else 0 := by
    simp only [TagDef.selectModes, List.mem_cons, List.not_mem_nil, or_false] at hm
    rcases hm with rfl | rfl | rfl <;> simp [hsm]
  refine ⟨hspan, by rw [hheader, hspan]; omega, fun r hr => ?_, fun r _ => ?_, fun r _ => ?_, fun h hq => ?_⟩
  · rw [openings_of_append_nil (rowPart_openings g r []).1, hselect, hcells r hr, hspan]
    omega
  · rw [openings_of_append_nil (rowPart_openings g r []).2.1,
      openings_of_append_nil (headerPart_openings g []).2]
  · exact openings_of_append_nil (rowPart_openings g r []).2.2
  · rw [hheader, Nat.add_comm, ← hspan]
    exact render_placeholder h hq

/-! ## The view of a grid frame -/

theorem ofFrame_selectMode (f : Frame) :
    (ofFrame f).selectMode = (f.get? "selectMode").getD (.str "none") := rfl

theorem ofFrame_colspan (f : Frame) :
    (ofFrame f).colspan =
      (ofFrame f).columns.length + if (ofFrame f).selectMode != .str "none" then 1 else 0 := rfl

/-- Every row of a grid's view has a cell for each of its columns, query rows and literal rows
alike. -/
theorem ofFrame_row_cells {f : Frame} {r : RowView} (hr : r ∈ (ofFrame f).rows) :
    r.cells.length = (ofFrame f).columns.length := by
  have hrow : ∀ i data (cols : List ColumnView), (row i data cols).cells.length = cols.length :=
    fun _ _ _ => List.length_map _
  dsimp only [ofFrame] at hr ⊢
  split at hr
  · obtain ⟨p, -, rfl⟩ := List.mem_map.1 hr
    exact hrow _ _ _
  · obtain ⟨p, -, rfl⟩ := List.mem_map.1 hr
    exact hrow _ _ _

end GridView

/-! ## Grid frames keep one of the three modes -/

namespace TagDef

/-- The grid declares its selection mode as a text among the three modes, `none` by default. -/
theorem grid_selectMode :
    (∃ spec ∈ grid.attrs, spec.name = "selectMode") ∧
      ∀ spec ∈ grid.attrs, spec.name = "selectMode" →
        spec.kind = .text ∧ spec.allowed = some selectModes ∧ spec.default = .str "none" := by
  have h : (grid.attrs.any (·.name == "selectMode") && grid.attrs.all fun spec =>
      spec.name != "selectMode" || (spec.kind == .text && spec.allowed == some selectModes &&
        spec.default == .str "none")) = true := by
    decide +kernel
  simp only [Bool.and_eq_true, List.any_eq_true, List.all_eq_true, beq_iff_eq, Bool.or_eq_true,
    bne_iff_ne, ne_eq] at h
  obtain ⟨hdecl, hkinds⟩ := h
  refine ⟨hdecl, fun spec hspec hname => ?_⟩
  rcases hkinds spec hspec with hne | ⟨⟨hk, hal⟩, hdef⟩
  · exact absurd hname hne
  · exact ⟨hk, hal, hdef⟩

end TagDef

/-- A frame that, when it is a grid, has one of the three selection modes. -/
def Frame.ModeDeclared (f : Frame) : Prop :=
  f.tag = "grid" → ∃ m ∈ TagDef.selectModes, f.get? "selectMode" = some (.str m)

namespace Document

/-- A grid's check passes its attributes on, set to select many rows when `multirowselect`
holds. -/
theorem checkGrid_eq_ok {attrs attrs' : Attrs} (h : checkGrid attrs = .ok attrs') :
    attrs' =
      if attrs.holds "multirowselect" then attrs.put "selectMode" (.str "multi") else attrs := by
  unfold checkGrid at h
  obtain ⟨_, -, h⟩ := except_bind_eq_ok.1 h
  obtain ⟨_, -, h⟩ := except_bind_eq_ok.1 h
  -- the query check passes the attributes on unchanged, or refuses them
  split at h
  · cases h
    rfl
  · cases h
    rfl
  · split at h <;> cases h
    rfl
  · cases h

/-- With supplied names distinct up to case, a validated and checked grid has one of the three
modes: the one its declaration accepted, or `multi` when many rows are selected. -/
theorem checkGrid_modeDeclared {raw attrs attrs' : Attrs} (hd : raw.CaseDistinct)
    (hv : Attrs.validate "grid" "Grid" TagDef.grid.attrs raw = .ok attrs)
    (hc : checkGrid attrs = .ok attrs') :
    ∃ m ∈ TagDef.selectModes, attrs'.get? "selectMode" = some (.str m) := by
  rw [checkGrid_eq_ok hc]
  split
  · exact ⟨"multi", by decide, by rw [Attrs.get?_put, if_pos rfl]; rfl⟩
  · obtain ⟨⟨spec, hspec, hname⟩, hdecl⟩ := TagDef.grid_selectMode
    obtain ⟨spec', hspec', hname', v, hfind, hcheck⟩ := Attrs.validate_declared hd hv hspec
    obtain ⟨hk, hal, hdef⟩ := hdecl spec' hspec' (hname'.trans hname)
    rw [Attrs.get?, ← hname, hfind]
    -- the value accepted is the default `none`, or a text among the allowed modes
    rcases AttrSpec.check_accept hcheck with rfl | hadmits
    · exact ⟨"none", by decide, by rw [hdef]; rfl⟩
    · simp only [AttrSpec.Admits, hk] at hadmits
      obtain ⟨t, rfl, ht⟩ := hadmits
      exact ⟨t, ht _ hal, rfl⟩

/-- Every event whose supplied names are distinct up to case keeps every open grid frame at one
of the three modes: a start opens a grid with its validated and checked mode, and the other
events open nothing. -/
theorem modeDeclared_step {d : Document} (hd : ∀ f ∈ stack d, f.ModeDeclared) {ev : Event}
    (hev : ev.CaseDistinct) : ∀ f ∈ stack (d.step ev).1, f.ModeDeclared := by
  cases ev with
  | start tag raw hasBody =>
    cases h : d.start tag raw hasBody with
    | error e =>
      rw [step_start_error h]
      exact hd
    | ok d' =>
      obtain ⟨td, attrs₀, attrs, htd, -, hv, hc, rfl⟩ := start_eq_ok.1 h
      rw [step_start_ok h, stack_eq_of_eraseLog (eraseLog_openFrame d td attrs)]
      intro f hf
      simp only [stack, List.map_cons, List.mem_cons] at hf
      rcases hf with rfl | hf
      · -- the frame opened: a tag named `grid` is the grid, checked as a grid
        intro hgrid
        obtain rfl := TagDef.eq_grid (definition_mem htd) hgrid
        exact checkGrid_modeDeclared hev hv hc
      · exact hd f hf
  | write text =>
    rw [step_write, stack_write]
    exact hd
  | close tag =>
    rw [step_close]
    rcases close_cases d tag with ⟨e, h, -⟩ | ⟨td, f, rest, -, hf, -, h⟩
    · rw [h]
      exact hd
    · rw [h, stack_settle, stack_eq_of_eraseLog (eraseLog_popped d f rest)]
      intro g hg
      exact hd g (by simp only [stack, hf, List.map_cons, List.mem_cons] at hg ⊢; exact .inr hg)
  | finish =>
    rw [step_finish]
    exact hd

/-- **Grids keep their modes.** In a session started with no frame open, whose starts each
supply attribute names distinct up to case, every open grid frame has one of the three modes. -/
theorem modeDeclared_run {d : Document} (h₀ : d.frames = []) {evs : List Event}
    (hevs : ∀ ev ∈ evs, ev.CaseDistinct) : ∀ f ∈ (d.run evs).frames, f.ModeDeclared := by
  -- the invariant is carried on the frames as they were opened, which keep tag and attributes
  suffices h : ∀ d : Document, (∀ f ∈ stack d, f.ModeDeclared) →
      ∀ f ∈ stack (d.run evs), f.ModeDeclared by
    intro f hf
    exact h d (by simp [stack, h₀]) f.opened (List.mem_map_of_mem hf)
  induction evs with
  | nil => exact fun d hd => hd
  | cons ev evs ih =>
    intro d hd
    exact ih (fun e he => hevs e (List.mem_cons_of_mem ev he)) _
      (modeDeclared_step hd (hevs ev List.mem_cons_self))

end Document

/-! ## Grids render consistent tables -/

open Html in
/-- **Grids render consistent tables.** In a session started with no frame open, whose starts
each supply attribute names distinct up to case, every open grid frame, with whatever columns and
rows it holds, renders a consistent table: the header row has as many cells as the column span,
and so has every body row; the selection cells are check boxes exactly when the header has its
select-all box and radio buttons exactly when the mode is `single`; and the row saying there is
no data spans the header's cells. A grid renders when its frame closes, as the innermost frame
open before the close. -/
theorem grid_cells_agree {d : Document} (h₀ : d.frames = []) {evs : List Event}
    (hevs : ∀ ev ∈ evs, ev.CaseDistinct) :
    ∀ f ∈ (d.run evs).frames, f.tag = "grid" → (GridView.ofFrame f).Aligned := by
  intro f hf hgrid
  obtain ⟨m, hm, hmode⟩ := Document.modeDeclared_run h₀ hevs f hf hgrid
  refine GridView.aligned_of_mode ⟨m, hm, ?_⟩ (GridView.ofFrame_colspan f)
    fun r hr => GridView.ofFrame_row_cells hr
  rw [GridView.ofFrame_selectMode, hmode]
  rfl

/-- A grid selecting single rows, with a column and a literal row, in a session whose names are
distinct up to case. -/
theorem single_select_grid_aligned :
    (∀ ev ∈ [Event.start "grid" [("name", .str "g"), ("selectMode", .str "single")] true,
        .start "gridcolumn" [("name", .str "a")] false, .close "gridcolumn",
        .start "gridrow" [("data", .obj [("a", .int 1)])] false, .close "gridrow"],
      ev.CaseDistinct) ∧
    ∀ f ∈ (({ config := {}, ids := .counter 0 } : Document).run
        [.start "grid" [("name", .str "g"), ("selectMode", .str "single")] true,
         .start "gridcolumn" [("name", .str "a")] false, .close "gridcolumn",
         .start "gridrow" [("data", .obj [("a", .int 1)])] false, .close "gridrow"]).frames,
      f.tag = "grid" → (GridView.ofFrame f).Aligned := by
  have hevs : ∀ ev ∈ [Event.start "grid" [("name", .str "g"), ("selectMode", .str "single")] true,
      .start "gridcolumn" [("name", .str "a")] false, .close "gridcolumn",
      .start "gridrow" [("data", .obj [("a", .int 1)])] false, .close "gridrow"],
      ev.CaseDistinct := by
    simp only [List.forall_mem_cons, List.not_mem_nil, IsEmpty.forall_iff, implies_true, and_true,
      Event.CaseDistinct]
    decide +kernel
  exact ⟨hevs, grid_cells_agree rfl hevs⟩

open Html in
/-- A grid given its mode twice, as `selectMode` with a trailing blank and as `SELECTMODE`, and
one query row: validation checks the name written last and carries the other over it unchecked,
so the grid's mode is `single ` with its blank. The header writes the selection header, as the
mode is not `none`, and has two cells, as many as the column span; the row writes no selection
cell, as the mode is neither `multi` nor `single`, and has one. -/
theorem colliding_select_mode_misaligned :
    ¬ Attrs.CaseDistinct [("name", .str "g"), ("selectMode", .str "single "),
        ("SELECTMODE", .str "single"), ("query", .list [.obj [("a", .int 1)]])] ∧
      ∃ f ∈ (({ config := {}, ids := .counter 0 } : Document).run
          [.start "grid" [("name", .str "g"), ("selectMode", .str "single "),
            ("SELECTMODE", .str "single"), ("query", .list [.obj [("a", .int 1)]])] false]).frames,
        (GridView.ofFrame f).colspan = 2 ∧
        openings "th " (GridView.ofFrame f).headerPart.toList = 2 ∧
        ∃ r ∈ (GridView.ofFrame f).rows,
          openings "td " ((GridView.ofFrame f).rowPart r).toList = 1 := by
  -- the session holds one grid, with the carried mode, one column and one row of one cell
  have hview : ((({ config := {}, ids := .counter 0 } : Document).run
      [.start "grid" [("name", .str "g"), ("selectMode", .str "single "),
        ("SELECTMODE", .str "single"), ("query", .list [.obj [("a", .int 1)]])] false]).frames.map
      fun f => ((GridView.ofFrame f).selectMode == .str "single ",
        (GridView.ofFrame f).columns.length,
        (GridView.ofFrame f).rows.map fun r => r.cells.length)) = [(true, 1, [1])] := by
    decide +kernel
  refine ⟨by decide +kernel, ?_⟩
  obtain ⟨f, hframes, hf⟩ := List.map_eq_singleton_iff.1 hview
  simp only [Prod.mk.injEq, beq_iff_eq] at hf
  obtain ⟨hmode, hcols, hrows⟩ := hf
  obtain ⟨r, hr, hcells⟩ := List.map_eq_singleton_iff.1 hrows
  have hheader :=
    GridView.openings_of_append_nil (GridView.headerPart_openings (GridView.ofFrame f) []).1
  have hrow :=
    GridView.openings_of_append_nil (GridView.rowPart_openings (GridView.ofFrame f) r []).1
  rw [hmode, hcols] at hheader
  rw [hmode, hcells] at hrow
  refine ⟨f, by rw [hframes]; exact List.mem_singleton_self f, ?_, by rw [hheader]; decide, r,
    by rw [hr]; exact List.mem_singleton_self r, ?_⟩
  · rw [GridView.ofFrame_colspan, hmode, hcols]
    decide
  · rw [hrow]
    decide

end UiTags
