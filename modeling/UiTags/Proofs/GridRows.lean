import UiTags.Query
import UiTags.Markup.Grid
import UiTags.Proofs.Validation
import Mathlib.Data.List.Basic

/-!
# Literal rows and query rows

A grid shows the rows of its query or, without a query, the rows its row tags registered, each
numbered by its place in registration order. The two sources are one: a grid whose literal rows
`d₁ … dₙ` are given as its query instead (and no row tags) is shown the same, but for having a
query, and having a query changes the markup only when the page shows no row, by one row saying
so. On a paged query grid the rows shown are the rows of the query's page, numbered from the row
before its first, and the page attributes are the page's numbers.

Main results:

- `GridView.ofFrame_withQuery`: the view of the grid with its literal rows as its query.
- `GridView.render_hasQuery_of_ne_nil`, `GridView.render_hasQuery_of_nil`: what having a query
  changes in the markup.
- `GridView.rows_of_query`, `GridView.data_of_query`: the rows and page attributes of a paged
  query grid.
- `rows_render_as_query`: both together, for every grid.
-/

namespace UiTags

/-! ## Markup that reads the attribute set whole -/

namespace Html

theorem sizeStyles_put_query (attrs : Attrs) (v : Value) :
    sizeStyles (attrs.put "query" v) = sizeStyles attrs := by
  simp only [sizeStyles, Attrs.get?_put]
  rfl

/-- Style declarations through maps that do not name `k` do not see it set. -/
theorem mappedStyles_put (attrs : Attrs) (k : String) (v : Value)
    (props flags : List (String × String)) (hp : ∀ p ∈ props, p.1 ≠ k)
    (hf : ∀ p ∈ flags, p.1 ≠ k) :
    mappedStyles (attrs.put k v) props flags = mappedStyles attrs props flags := by
  unfold mappedStyles
  congr 1
  · exact List.filterMap_congr fun p hmem => by simp [Attrs.get?_put, hp p hmem]
  · exact List.filterMap_congr fun p hmem => by simp [Attrs.holds_put_ne _ _ (hf p hmem)]

/-- The caller's `data-*` attributes do not see a pair set under a name that is no `data-`
name. -/
theorem passthrough_put {attrs : Attrs} {k : String} (v : Value) (taken : List String)
    (hk : (Text.lower k).startsWith "data-" = false) :
    passthrough (attrs.put k v) taken = passthrough attrs taken := by
  unfold passthrough Attrs.put
  split
  · rw [List.filterMap_map]
    apply List.filterMap_congr
    intro p _
    by_cases hp : p.1 = k
    · simp [hp, hk]
    · have hb : (p.1 == k) = false := by simpa using hp
      simp only [hb, Bool.false_eq_true, if_false, Function.comp]
  · simp [List.filterMap_append, hk]

theorem query_not_data : (Text.lower "query").startsWith "data-" = false := by
  decide +kernel

end Html

/-! ## Pages of a list -/

namespace Page

theorem window_map {α β : Type} (pg : Page) (f : α → β) (l : List α) :
    pg.window (l.map f) = (pg.window l).map f := by
  unfold window
  split <;> simp [List.map_drop, List.map_take]

/-- Paging succeeds for a page size and a page of at least one over a row count not
negative. -/
theorem make_isOk (total : Int) {page size : Int} (hs : 1 ≤ size) (hp : 1 ≤ page) (ht : 0 ≤ total) :
    ∃ pg, Page.make total page size = .ok pg := by
  have hs' : ¬ size < 1 := by omega
  have hp' : ¬ page < 1 := by omega
  have ht' : ¬ total < 0 := by omega
  simp [Page.make, hs', hp', ht']

/-- A page of a list holds the rows from its first row number to its last one: as many as
`endRow + 1 - startRow`, none for a page past the end. -/
theorem length_window {α : Type} {l : List α} {page size : Int} {pg : Page}
    (h : Page.make l.length page size = .ok pg) :
    (pg.window l).length = pg.endRow + 1 - pg.startRow := by
  unfold Page.make at h
  split at h
  · cases h
  split at h
  · cases h
  split at h
  · cases h
  cases h
  unfold window isEmpty
  split
  · -- no rows: the last row number is the one before the first
    rename_i hlt
    rw [decide_eq_true_eq] at hlt
    rw [List.length_nil]
    omega
  · -- the rows past the first row number, up to the last one or to the end of the list
    rename_i hlt
    rw [decide_eq_true_eq] at hlt
    dsimp only at hlt ⊢
    rw [List.length_take, List.length_drop, Int.toNat_natCast]
    omega

end Page

/-! ## Rows numbered by their place -/

namespace Row

/-- Rows numbered by their place keep their numbers through a slice: the slice starting at `a`
is numbered from `a`. -/
theorem slice_indexed {rs : List Row} (h : rs.map (·.index) = List.range rs.length)
    (a b : Nat) :
    ((rs.drop a).take b).map (fun r => (r.data, r.index)) =
      (((rs.map (·.data)).drop a).take b).zipIdx a := by
  apply List.ext_getElem
  · simp
  · intro i h1 h2
    have hi : a + i < rs.length := by
      simp only [List.length_map, List.length_take, List.length_drop] at h1
      omega
    have hidx : rs[a + i].index = a + i := by
      have := List.getElem_of_eq h (by simpa using hi)
      simpa using this
    simp [List.getElem_zipIdx, hidx]

/-- The rows of a page, numbered by their place among all rows, are the page's data numbered
from the row before the page's first. -/
theorem window_indexed {rs : List Row} (h : rs.map (·.index) = List.range rs.length)
    (pg : Page) :
    (pg.window rs).map (fun r => (r.data, r.index)) =
      (pg.window (rs.map (·.data))).zipIdx (pg.startRow - 1) := by
  unfold Page.window
  split
  · rfl
  · exact slice_indexed h _ _

/-- All rows, numbered by their place, are their data numbered from zero. -/
theorem all_indexed {rs : List Row} (h : rs.map (·.index) = List.range rs.length) :
    rs.map (fun r => (r.data, r.index)) = (rs.map (·.data)).zipIdx := by
  have hs := slice_indexed h 0 rs.length
  rwa [List.drop_zero, List.drop_zero, List.take_length,
    List.take_of_length_le (by simp)] at hs

end Row

/-! ## One grid, two sources of rows -/

namespace Frame

/-- The grid with literal rows `ds`, registered in order, each numbered by its place. -/
def withRows (f : Frame) (ds : List (List (String × Value))) : Frame :=
  { f with rows := ds.zipIdx.map fun e => { index := e.2, data := e.1 } }

/-- The grid with query `ds` and no literal rows. -/
def withQuery (f : Frame) (ds : List (List (String × Value))) : Frame :=
  { f with attrs := f.attrs.put "query" (.list (ds.map .obj)), rows := [] }

theorem withRows_index (f : Frame) (ds : List (List (String × Value))) :
    (f.withRows ds).rows.map (·.index) = List.range (f.withRows ds).rows.length := by
  simp [withRows, Function.comp_def, List.range_eq_range']

theorem withRows_data (f : Frame) (ds : List (List (String × Value))) :
    (f.withRows ds).rows.map (·.data) = ds := by
  simp [withRows, Function.comp_def]

@[simp] theorem withQuery_id (f : Frame) (ds : List (List (String × Value))) : (f.withQuery ds).id = f.id := rfl
@[simp] theorem withQuery_columns (f : Frame) (ds : List (List (String × Value))) : (f.withQuery ds).columns = f.columns := rfl
@[simp] theorem withQuery_rows (f : Frame) (ds : List (List (String × Value))) : (f.withQuery ds).rows = [] := rfl
@[simp] theorem withRows_id (f : Frame) (ds : List (List (String × Value))) : (f.withRows ds).id = f.id := rfl
@[simp] theorem withRows_columns (f : Frame) (ds : List (List (String × Value))) : (f.withRows ds).columns = f.columns := rfl
@[simp] theorem withRows_attrs (f : Frame) (ds : List (List (String × Value))) : (f.withRows ds).attrs = f.attrs := rfl
@[simp] theorem get?_withRows (f : Frame) (ds : List (List (String × Value))) (n : String) :
    (f.withRows ds).get? n = f.get? n := rfl
@[simp] theorem holds_withRows (f : Frame) (ds : List (List (String × Value))) (n : String) :
    (f.withRows ds).holds n = f.holds n := rfl

theorem withQuery_attrs (f : Frame) (ds : List (List (String × Value))) :
    (f.withQuery ds).attrs = f.attrs.put "query" (.list (ds.map .obj)) := rfl

theorem get?_withQuery (f : Frame) (ds : List (List (String × Value))) {n : String} (h : n ≠ "query") :
    (f.withQuery ds).get? n = f.get? n := by
  simp [withQuery, get?, Attrs.get?_put, h]

theorem holds_withQuery (f : Frame) (ds : List (List (String × Value))) {n : String} (h : n ≠ "query") :
    (f.withQuery ds).holds n = f.holds n := by
  simp [withQuery, holds, Attrs.holds_put_ne _ _ h]

end Frame

/-! ## The grid as shown -/

namespace GridView

theorem queryRows_withQuery (f : Frame) (ds : List (List (String × Value))) :
    queryRows (f.withQuery ds) = some ds := by
  simp [queryRows, Frame.withQuery, Frame.get?, Attrs.get?_put, Value.present,
    List.filterMap_map]

theorem queryRows_of_none (f : Frame) (h : f.get? "query" = none) : queryRows f = none := by
  simp [queryRows, h]

/-- Without a query the literal rows, with one the query rows, are paged alike. -/
theorem pageOf_withQuery {f : Frame} (hq : f.get? "query" = none)
    {ds : List (List (String × Value))} (hds : ds ≠ []) :
    pageOf (f.withQuery ds) = pageOf (f.withRows ds) := by
  have hr : (f.withRows ds).rows ≠ [] := by simpa [Frame.withRows] using hds
  have hlen : (f.withRows ds).rows.length = ds.length := by simp [Frame.withRows]
  unfold pageOf
  simp [queryRows_withQuery, queryRows_of_none (f.withRows ds) hq, hr, hlen,
    Frame.get?_withQuery]

/-- Rows numbered by their place are shown as their data numbered by place, on a page or all of
them. -/
theorem rows_indexed {rs : List Row} (h : rs.map (·.index) = List.range rs.length)
    (page : Option Page) (cols : List ColumnView) :
    (((match page with
        | some pg => pg.window (rs.map fun r : Row => r.data)
        | none => rs.map fun r : Row => r.data).zipIdx
      (match page with
        | some pg => pg.startRow - 1
        | none => 0)).map fun p : List (String × Value) × Nat => row p.2 p.1 cols) =
      (match page with
        | some pg => pg.window rs
        | none => rs).map fun r : Row => row r.index r.data cols := by
  cases page with
  | none => rw [← Row.all_indexed h, List.map_map]; rfl
  | some pg => rw [← Row.window_indexed h pg, List.map_map]; rfl

/-- A grid whose literal rows are given as its query instead is shown the same, but for having
a query. -/
theorem ofFrame_withQuery {f : Frame} (hq : f.get? "query" = none)
    {ds : List (List (String × Value))} (hds : ds ≠ []) :
    ofFrame (f.withQuery ds) = { ofFrame (f.withRows ds) with hasQuery := true } := by
  have hidx := Frame.withRows_index f ds
  have hdata := Frame.withRows_data f ds
  have hne : (f.withRows ds).rows ≠ [] := by simpa [Frame.withRows] using hds
  unfold ofFrame
  simp only [pageOf_withQuery hq hds, queryRows_withQuery,
    queryRows_of_none (f.withRows ds) hq, Frame.withQuery_id, Frame.withQuery_columns,
    Frame.withRows_id, Frame.withRows_columns, Frame.withQuery_attrs,
    Html.sizeStyles_put_query, Html.withPassthrough, Html.passthrough_put _ _ Html.query_not_data,
    Html.mappedStyles_put _ "query" _ bodyStyleMap bodyFlagMap (by decide) (by decide),
    Html.mappedStyles_put _ "query" _ headerStyleMap headerFlagMap (by decide) (by decide),
    Frame.get?_withQuery f _ (show "selectMode" ≠ "query" by decide)]
  -- the query is the literal rows' data: name the rows, and the first one names the columns
  generalize (f.withRows ds).rows = rs at hidx hdata hne ⊢
  subst hdata
  obtain ⟨r, rs', rfl⟩ := List.exists_cons_of_ne_nil hne
  simp [Frame.get?_withQuery, Frame.holds_withQuery]
  exact ⟨rfl, rfl, rows_indexed hidx _ _⟩

/-! ## What having a query changes in the markup -/

theorem headerPart_hasQuery (g : GridView) (b : Bool) :
    { g with hasQuery := b }.headerPart = g.headerPart := by
  unfold headerPart
  rfl

theorem rowPart_hasQuery (g : GridView) (b : Bool) :
    { g with hasQuery := b }.rowPart = g.rowPart := by
  funext r
  unfold rowPart
  rfl

/-- A grid that shows rows is written the same with or without a query. -/
theorem render_hasQuery_of_ne_nil (g : GridView) (h : g.rows ≠ []) :
    { g with hasQuery := true }.render = g.render := by
  have hne : g.rows.isEmpty = false := List.isEmpty_eq_false_iff.2 h
  unfold render
  simp only [hne, headerPart_hasQuery, rowPart_hasQuery, Bool.false_eq_true, ↓reduceIte]

/-- A grid that shows no row gains, with a query, one row saying that there is no data, right
after the table body opens. -/
theorem render_hasQuery_of_nil (g : GridView) (h : g.rows = []) (hq : g.hasQuery = false) :
    ∃ top bottom, g.render = top ++ bottom ∧
      { g with hasQuery := true }.render = top ++
        ("            <tr class=\"bx-grid-empty-row\"><td class=\"bx-grid-empty\" colspan=\"" ++
          toString g.colspan ++ "\">No data available</td></tr>\n") ++ bottom := by
  refine ⟨"<div id=\"" ++ Html.text g.id ++ "\" class=\"" ++ Html.escape g.classes ++ "\"" ++
      styleAttr g.style ++ Html.attrPairs g.data ++ ">\n" ++
    "    <table class=\"bx-grid-table\">\n" ++
    (if g.showHeaders then headerPart g else "") ++
    "        <tbody class=\"bx-grid-body\">\n",
    "        </tbody>\n" ++ "    </table>\n" ++ g.page.elim "" pagePart ++ "</div>\n", ?_, ?_⟩
  -- the page links are written by a `match` on the page: settle the page first
  · unfold render
    rw [h, hq]
    cases hp : g.page <;>
      simp only [Option.elim, List.isEmpty_nil, Bool.false_eq_true, ↓reduceIte,
        String.append_empty, String.append_assoc]
  · unfold render
    simp only [headerPart_hasQuery]
    rw [h]
    cases hp : g.page <;>
      simp only [Option.elim, List.isEmpty_nil, ↓reduceIte, String.append_assoc]

/-! ## A paged query grid -/

section QueryPath

variable {f : Frame} {q : List (List (String × Value))} {p k : Int}

theorem queryRows_of_list (hq : f.get? "query" = some (.list (q.map .obj))) :
    queryRows f = some q := by
  simp [queryRows, hq, List.filterMap_map]

theorem pageOf_of_query (hq : f.get? "query" = some (.list (q.map .obj)))
    (hp : f.get? "pageSize" = some (.int p)) (hk : f.get? "page" = some (.int k)) (hp1 : 1 ≤ p)
    {pg : Page} (hpg : Page.make q.length k p = .ok pg) :
    pageOf f = some pg := by
  have htruthy : (Value.int p).truthy = true := by simp [Value.truthy]; omega
  simp [pageOf, queryRows_of_list hq, hp, hk, Option.filter, htruthy, asInt?, hpg,
    Except.toOption]

/-- The rows of a paged query grid: the page's rows, in order, numbered from the row before the
page's first. -/
theorem rows_of_query {pg : Page} (hq : f.get? "query" = some (.list (q.map .obj)))
    (hpage : pageOf f = some pg) :
    (ofFrame f).rows =
      ((pg.window q).zipIdx (pg.startRow - 1)).map fun e => row e.2 e.1 (ofFrame f).columns := by
  unfold ofFrame
  simp only [queryRows_of_list hq, hpage]

/-- The page attributes of a paged grid are the page's numbers: the first `data-page`,
`data-total-pages` and `data-total-rows` pairs of its root element. -/
theorem data_of_query {pg : Page} (hpage : pageOf f = some pg) :
    (ofFrame f).data.lookup "data-page" = some (toString pg.page) ∧
      (ofFrame f).data.lookup "data-total-pages" = some (toString pg.totalPages) ∧
      (ofFrame f).data.lookup "data-total-rows" = some (toString pg.total) := by
  unfold ofFrame
  simp only [hpage, Html.withPassthrough]
  cases (f.get? "pageSize").filter Value.truthy <;> simp [List.lookup_cons]

end QueryPath

end GridView

/-- Grid rows from row tags and grid rows from a query are one. For every grid without a query
and every non-empty list of rows `d₁ … dₙ` registered in order: the grid with these rows as
its query instead is shown the same but for having a query, so it is written byte for byte the
same when a row is shown, and otherwise only gains the row saying there is no data. And on a
paged query grid (page size `p`, page `k`, both at least one), the query page exists, the grid
is paged by it, its rows are the page's rows in order, numbered from the row before the page's
first to the row before its last, and its page attributes are the page's numbers. -/
theorem rows_render_as_query :
    (∀ (f : Frame) (ds : List (List (String × Value))), f.get? "query" = none → ds ≠ [] →
      GridView.ofFrame (f.withQuery ds) = { GridView.ofFrame (f.withRows ds) with hasQuery := true } ∧
      ((GridView.ofFrame (f.withRows ds)).rows ≠ [] →
        (GridView.ofFrame (f.withQuery ds)).render = (GridView.ofFrame (f.withRows ds)).render) ∧
      ((GridView.ofFrame (f.withRows ds)).rows = [] →
        ∃ top bottom, (GridView.ofFrame (f.withRows ds)).render = top ++ bottom ∧
          (GridView.ofFrame (f.withQuery ds)).render = top ++
            ("            <tr class=\"bx-grid-empty-row\"><td class=\"bx-grid-empty\" colspan=\"" ++
              toString (GridView.ofFrame (f.withRows ds)).colspan ++
              "\">No data available</td></tr>\n") ++ bottom)) ∧
    (∀ (f : Frame) (q : List (List (String × Value))) (p k : Int),
      f.get? "query" = some (.list (q.map .obj)) → f.get? "pageSize" = some (.int p) →
      f.get? "page" = some (.int k) → 1 ≤ p → 1 ≤ k →
      ∃ r, QueryPage.convert (some q) (some k) (some p) = .ok r ∧
        (GridView.ofFrame f).page = some r.numbers ∧
        (GridView.ofFrame f).rows = ((r.rows.zipIdx (r.numbers.startRow - 1)).map fun e =>
          GridView.row e.2 e.1 (GridView.ofFrame f).columns) ∧
        (GridView.ofFrame f).rows.map (·.index) =
          List.range' (r.numbers.startRow - 1) (r.numbers.endRow + 1 - r.numbers.startRow) ∧
        (GridView.ofFrame f).data.lookup "data-page" = some (toString r.numbers.page) ∧
        (GridView.ofFrame f).data.lookup "data-total-pages" =
          some (toString r.numbers.totalPages) ∧
        (GridView.ofFrame f).data.lookup "data-total-rows" = some (toString r.numbers.total)) := by
  refine ⟨fun f ds hq hds => ?_, fun f q p k hq hp hk hp1 hk1 => ?_⟩
  · have hview := GridView.ofFrame_withQuery hq hds
    refine ⟨hview, fun hne => ?_, fun hnil => ?_⟩
    · rw [hview]
      exact GridView.render_hasQuery_of_ne_nil _ hne
    · have hnoq : (GridView.ofFrame (f.withRows ds)).hasQuery = false := by
        simp [GridView.ofFrame, GridView.queryRows_of_none (f.withRows ds) hq]
      rw [hview]
      exact GridView.render_hasQuery_of_nil _ hnil hnoq
  · obtain ⟨pg, hpg⟩ := Page.make_isOk q.length hp1 hk1 (by omega)
    have hpage := GridView.pageOf_of_query hq hp hk hp1 hpg
    have hrows := GridView.rows_of_query hq hpage
    refine ⟨⟨pg, pg.window q⟩, by simp [QueryPage.convert, hpg], ?_, hrows, ?_,
      GridView.data_of_query hpage⟩
    · simp [GridView.ofFrame, hpage]
    · rw [hrows, List.map_map]
      -- the numbers run from the row before the first over the page's length
      have hlen := Page.length_window hpg
      rw [← hlen]
      apply List.ext_getElem <;> simp [List.getElem_zipIdx, GridView.row]

/-- A grid with two literal rows is written the same as the grid with them as its query; a
grid paged two rows a page over three query rows has its page two, and numbers its rows from
that page. -/
theorem two_rows_render_as_query :
    (({ tag := "grid", kind := .grid, id := .str "grid_1", attrs := [("name", .str "g")] } :
        Frame).get? "query" = none ∧
      [[("a", Value.int 1)], [("a", .int 2)]] ≠ [] ∧
      (GridView.ofFrame
        (({ tag := "grid", kind := .grid, id := .str "grid_1", attrs := [("name", .str "g")] } :
          Frame).withRows [[("a", .int 1)], [("a", .int 2)]])).rows ≠ [] ∧
      (GridView.ofFrame
        (({ tag := "grid", kind := .grid, id := .str "grid_1", attrs := [("name", .str "g")] } :
          Frame).withQuery [[("a", .int 1)], [("a", .int 2)]])).render =
      (GridView.ofFrame
        (({ tag := "grid", kind := .grid, id := .str "grid_1", attrs := [("name", .str "g")] } :
          Frame).withRows [[("a", .int 1)], [("a", .int 2)]])).render) ∧
    (({ tag := "grid", kind := .grid, id := .str "grid_1",
        attrs := [("name", .str "g"), ("pageSize", .int 2), ("page", .int 2),
          ("query", .list [.obj [("a", .int 1)], .obj [("a", .int 2)], .obj [("a", .int 3)]])] } :
        Frame).get? "query" =
        some (.list ([[("a", Value.int 1)], [("a", .int 2)], [("a", .int 3)]].map .obj)) ∧
      ∃ r, QueryPage.convert (some [[("a", Value.int 1)], [("a", .int 2)], [("a", .int 3)]])
          (some 2) (some 2) = .ok r ∧
        (GridView.ofFrame
          ({ tag := "grid", kind := .grid, id := .str "grid_1",
             attrs := [("name", .str "g"), ("pageSize", .int 2), ("page", .int 2),
               ("query", .list [.obj [("a", .int 1)], .obj [("a", .int 2)], .obj [("a", .int 3)]])] } :
            Frame)).rows.map (·.index) =
          List.range' (r.numbers.startRow - 1) (r.numbers.endRow + 1 - r.numbers.startRow)) := by
  have hq₁ : (({ tag := "grid", kind := .grid, id := .str "grid_1",
                 attrs := [("name", .str "g")] } : Frame).get? "query") = none := by
    decide
  have hds : ([[("a", Value.int 1)], [("a", .int 2)]] : List (List (String × Value))) ≠ [] := by
    simp
  have hshown : (GridView.ofFrame
      (({ tag := "grid", kind := .grid, id := .str "grid_1", attrs := [("name", .str "g")] } :
        Frame).withRows [[("a", .int 1)], [("a", .int 2)]])).rows ≠ [] := by
    apply List.ne_nil_of_length_pos
    decide +kernel
  refine ⟨⟨hq₁, hds, hshown, (rows_render_as_query.1 _ _ hq₁ hds).2.1 hshown⟩, ?_⟩
  have hq₂ : (({ tag := "grid", kind := .grid, id := .str "grid_1",
                 attrs := [("name", .str "g"), ("pageSize", .int 2), ("page", .int 2),
                   ("query", .list [.obj [("a", .int 1)], .obj [("a", .int 2)],
                     .obj [("a", .int 3)]])] } : Frame).get? "query") =
      some (.list ([[("a", Value.int 1)], [("a", .int 2)], [("a", .int 3)]].map .obj)) := rfl
  obtain ⟨r, hr, -, -, hidx, -⟩ :=
    rows_render_as_query.2 _ _ 2 2 hq₂ rfl rfl (by decide) (by decide)
  exact ⟨hq₂, r, hr, hidx⟩

end UiTags
