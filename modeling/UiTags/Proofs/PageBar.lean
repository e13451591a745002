import UiTags.Output
import UiTags.Proofs.Paging
import Mathlib.Data.List.Nodup

/-!
# The page bar of a grid

A paged grid ends with a bar of buttons: the page information, a button back, one numbered
button for each page within two of the current one, and a button forward. With `t` rows, page
`k` and `n` pages, the numbered buttons are `max 1 (k - 2), …, min n (k + 2)` in order; the
current page is marked on exactly one of them when `k ≤ n` and on none past the last page; the
button back is disabled on the first page and the button forward from the last page on; and the
information reads `No records` without rows, `Page k of n` past the last page, and otherwise
`Showing s-e of t` for a non-empty run of at most a page of the rows.

Each button is written in one shape, `pageButton`, from its classes, the page it asks for,
whether it is disabled and its label; `pageBar` is the bar in those terms.

Main results:

- `Page.links_eq`: the linked pages are the range from `max 1 (k - 2)` to `min n (k + 2)`.
- `Page.info_cases`: the three readings of the page information.
- `GridView.pagePart_eq_pageBar`: the bar as written is the bar in the buttons' terms.
- `GridView.page_bar_exact`: every paged grid frame closes with that bar.
-/

namespace UiTags

/-! ## Escaping numbers and fixed words -/

namespace Html

theorem escape_append (s t : String) : escape (s ++ t) = escape s ++ escape t := by
  simp [escape, String.ofList_append]

theorem escape_of_forall {s : String} (h : ∀ c ∈ s.toList, escapeChar c = [c]) : escape s = s := by
  unfold escape
  rw [List.flatMap_congr h, List.flatMap_singleton', String.ofList_toList]

/-- A digit is written as it is. -/
theorem escapeChar_of_isDigit {c : Char} (h : c.isDigit = true) : escapeChar c = [c] := by
  have hne : c ≠ '&' ∧ c ≠ '<' ∧ c ≠ '>' ∧ c ≠ '"' ∧ c ≠ '\'' := by
    refine ⟨?_, ?_, ?_, ?_, ?_⟩ <;> rintro rfl <;> simp_all [Char.isDigit]
  simp [escapeChar, hne]

/-- The decimal numeral of a number is written as it is. -/
@[simp] theorem escape_toString (n : Nat) : escape (toString n) = toString n := by
  apply escape_of_forall
  intro c hc
  have hc' : c ∈ Nat.toDigits 10 n := by simpa [Nat.toString_eq_repr, Nat.repr] using hc
  exact escapeChar_of_isDigit (Nat.isDigit_of_mem_toDigits (by decide) (by decide) hc')

end Html

/-! ## The page figures the bar shows -/

namespace Page

/-- The pages linked around page `k` of `n`: from `max 1 (k - 2)` to `min n (k + 2)`, none when
there are no pages. -/
theorem links_eq (pg : Page) :
    pg.links = List.range' (max 1 (pg.page - 2))
      (min pg.totalPages (pg.page + 2) + 1 - max 1 (pg.page - 2)) := by
  unfold links
  split
  · -- no pages: the range ends before it starts
    rename_i h
    rw [h, Nat.zero_min, Nat.zero_add, Nat.sub_eq_zero_of_le (Nat.le_max_left 1 _),
      List.range'_zero]
  · rfl

/-- A range holds a number once when the number lies in it and not at all otherwise. -/
theorem count_range' (a m k : Nat) :
    (List.range' a m).count k = if a ≤ k ∧ k < a + m then 1 else 0 := by
  split
  · rename_i h
    exact List.count_eq_one_of_mem (List.nodup_range' 1 (by decide)) (List.mem_range'_1.2 h)
  · rename_i h
    exact List.count_eq_zero_of_not_mem (mt List.mem_range'_1.1 h)

/-- Of the linked pages, the current one is marked once when it is not past the last page, and
none is marked past it. -/
theorem count_page_links (pg : Page) (hk : 1 ≤ pg.page) :
    (List.range' (max 1 (pg.page - 2))
      (min pg.totalPages (pg.page + 2) + 1 - max 1 (pg.page - 2))).count pg.page =
      if pg.page ≤ pg.totalPages then 1 else 0 := by
  rw [count_range']
  by_cases h : pg.page ≤ pg.totalPages
  · rw [if_pos h, if_pos (by omega)]
  · rw [if_neg h, if_neg (by omega)]

theorem hasPrevious_eq (pg : Page) (hk : 1 ≤ pg.page) :
    pg.hasPrevious = !decide (pg.page = 1) := by
  by_cases h : pg.page = 1 <;> simp [hasPrevious, h]; omega

theorem hasNext_eq (pg : Page) : pg.hasNext = !decide (pg.totalPages ≤ pg.page) := by
  rw [hasNext, Bool.eq_iff_iff]
  simp

/-- The page information is written as it is: words, digits and a dash. -/
theorem escape_info (pg : Page) : Html.escape pg.info = pg.info := by
  unfold info
  split
  · rfl
  split
  · simp only [Html.escape_append, Html.escape_toString]
    rfl
  · simp only [Html.escape_append, Html.escape_toString]
    rfl

/-- The first letter of the page information tells its three readings apart. -/
theorem info_head (pg : Page) :
    pg.info.toList.head? =
      some (if pg.total = 0 then 'N' else if pg.isEmpty then 'P' else 'S') := by
  unfold info
  split
  · rfl
  split <;> simp [*, toString]

section Made

variable {total page size : Int} {pg : Page} (h : Page.make total page size = .ok pg)
include h

/-- Past the last page of rows the information names the page and the page count; otherwise it
shows a run of rows, from one not before the first to one not after the last, at most a page of
them. -/
theorem info_cases :
    (pg.info = "No records" ↔ pg.total = 0) ∧
    (pg.info = s!"Page {pg.page} of {pg.totalPages}" ↔ 0 < pg.total ∧ pg.totalPages < pg.page) ∧
    (0 < pg.total → pg.page ≤ pg.totalPages →
      ∃ s e, pg.info = s!"Showing {s}-{e} of {pg.total}" ∧
        1 ≤ s ∧ s ≤ e ∧ e ≤ pg.total ∧ e - s + 1 ≤ pg.size) := by
  have hempty := isEmpty_iff_lt h
  have hhead := info_head pg
  -- two readings with different first letters are different texts
  have hne : ∀ {a b : String}, a.toList.head? ≠ b.toList.head? → a ≠ b :=
    fun hab he => hab (by rw [he])
  refine ⟨⟨fun hi => ?_, fun ht => by simp [info, ht]⟩, ⟨fun hi => ?_, fun ⟨ht, hp⟩ => ?_⟩,
    fun ht hp => ?_⟩
  · by_contra ht
    exact hne (by rw [hhead, if_neg ht]; split <;> simp) hi
  · have ht : pg.total ≠ 0 := fun ht => hne (by rw [hhead, if_pos ht]; simp [toString]) hi
    refine ⟨by omega, hempty.1 ?_⟩
    by_contra hp
    exact hne (by rw [hhead, if_neg ht, if_neg hp]; simp [toString]) hi
  · simp [info, show pg.total ≠ 0 by omega, hempty.2 hp]
  · -- a page up to the last holds a run of at most a page of rows
    obtain ⟨hs, hk, ht0⟩ := make_ok_bounds h
    have hne' : pg.isEmpty = false := by
      rw [Bool.eq_false_iff]
      exact fun he => absurd (hempty.1 he) (by omega)
    refine ⟨pg.startRow, pg.endRow, by simp [info, show pg.total ≠ 0 by omega, hne'], ?_⟩
    rw [make_eq_ok hs hk ht0, Except.ok.injEq] at h
    subst h
    simp only [isEmpty, decide_eq_false_iff_not, Nat.not_lt] at hne'
    obtain ⟨j, hj⟩ : ∃ j, page.toNat = j + 1 := ⟨page.toNat - 1, by omega⟩
    simp only [hj, Nat.add_sub_cancel, Nat.succ_mul] at hne' ⊢
    omega

end Made

end Page

/-! ## The bar as buttons -/

namespace GridView

/-- One button of the page bar, from its classes, the page it asks for, whether it is disabled,
and its label. -/
def pageButton (classes target : String) (disabled : Bool) (label : String) : String :=
  "        <button type=\"button\" class=\"" ++ classes ++ "\" data-page=\"" ++ target ++ "\"" ++
    (if disabled then " disabled" else "") ++ ">" ++ label ++ "</button>\n"

/-- The page bar of page `k` of `n`: the information, the button back (disabled on page one),
a button for each page from `max 1 (k - 2)` to `min n (k + 2)` (the current one marked), and the
button forward (disabled from page `n` on). -/
def pageBar (pg : Page) : String :=
  "    <div class=\"bx-grid-pagination\" data-page=\"" ++ toString pg.page ++
    "\" data-total-pages=\"" ++ toString pg.totalPages ++ "\">\n" ++
  "        <span class=\"bx-grid-page-info\">" ++ pg.info ++ "</span>\n" ++
  pageButton "bx-grid-page-btn bx-grid-page-prev" (toString ((pg.page : Int) - 1))
    (decide (pg.page = 1)) "Previous" ++
  String.join ((List.range' (max 1 (pg.page - 2))
      (min pg.totalPages (pg.page + 2) + 1 - max 1 (pg.page - 2))).map fun m =>
    pageButton ("bx-grid-page-btn" ++ if m = pg.page then " bx-grid-page-current" else "")
      (toString m) false (toString m)) ++
  pageButton "bx-grid-page-btn bx-grid-page-next" (toString (pg.page + 1))
    (decide (pg.totalPages ≤ pg.page)) "Next" ++
  "    </div>\n"

/-- The bar as written is the bar in the buttons' terms, for every page from the first on. -/
theorem pagePart_eq_pageBar (pg : Page) (hk : 1 ≤ pg.page) : pagePart pg = pageBar pg := by
  -- the bar's fixed texts, cut where a button's classes, target and label meet
  have hprev : "        <button type=\"button\" class=\"bx-grid-page-btn bx-grid-page-prev\" data-page=\"" =
      "        <button type=\"button\" class=\"" ++ ("bx-grid-page-btn bx-grid-page-prev" ++
        "\" data-page=\"") := by simp only [String.reduceAppend]
  have hnext : "        <button type=\"button\" class=\"bx-grid-page-btn bx-grid-page-next\" data-page=\"" =
      "        <button type=\"button\" class=\"" ++ ("bx-grid-page-btn bx-grid-page-next" ++
        "\" data-page=\"") := by simp only [String.reduceAppend]
  have hnum : "        <button type=\"button\" class=\"bx-grid-page-btn" =
      "        <button type=\"button\" class=\"" ++ "bx-grid-page-btn" := by
    simp only [String.reduceAppend]
  have hclose : "\">" = "\"" ++ ">" := by simp only [String.reduceAppend]
  have hprevLabel : ">Previous</button>\n" = ">" ++ ("Previous" ++ "</button>\n") := by
    simp only [String.reduceAppend]
  have hnextLabel : ">Next</button>\n" = ">" ++ ("Next" ++ "</button>\n") := by
    simp only [String.reduceAppend]
  unfold pagePart pageBar pageButton
  rw [Page.escape_info, Page.hasPrevious_eq pg hk, Page.hasNext_eq, Page.links_eq, hprev, hnext,
    hnum, hclose, hprevLabel, hnextLabel]
  simp only [String.append_assoc, String.append_empty, beq_iff_eq,
    Bool.not_eq_true', decide_eq_false_iff_not, decide_eq_true_eq, ite_not, Bool.false_eq_true,
    if_false]

/-- A paged view closes with its page bar. -/
theorem render_of_page (g : GridView) {pg : Page} (h : g.page = some pg) :
    ∃ top, g.render = top ++ pagePart pg ++ "</div>\n" := by
  unfold render
  rw [h]
  exact ⟨_, rfl⟩

/-! ## A paged grid frame -/

theorem ofFrame_page (f : Frame) : (ofFrame f).page = pageOf f := rfl

/-- A grid frame is paged when it has a truthy page size and rows, a query or a row tag, its page
size and page read as integers, and paging its rows by them succeeds. -/
theorem pageOf_eq_some {f : Frame} {pg : Page} (h : pageOf f = some pg) :
    ∃ sz, f.get? "pageSize" = some sz ∧ sz.truthy = true ∧
      ((queryRows f).isSome ∨ f.rows ≠ []) ∧
      ∃ s k, asInt? sz = some s ∧ asInt? ((f.get? "page").getD (.int 1)) = some k ∧
        Page.make (((queryRows f).map List.length).getD f.rows.length) k s = .ok pg := by
  have htoOption : ∀ {x : Except Failure Page}, x.toOption = some pg → x = .ok pg := by
    intro x hx
    cases x <;> simp_all [Except.toOption]
  unfold pageOf at h
  cases hsz : f.get? "pageSize" with
  | none => simp [hsz] at h
  | some sz =>
    cases htruthy : sz.truthy
    · simp [hsz, htruthy, Option.filter] at h
    simp only [hsz, Option.filter, htruthy, if_true] at h
    split at h
    · cases h
    rename_i hrows
    split at h
    · rename_i s k hs hk
      refine ⟨sz, rfl, htruthy, ?_, s, k, hs, hk, ?_⟩
      · cases hq : queryRows f <;> simp_all
      · -- the row count paging reads is the query's length, or the number of row tags
        cases hq : queryRows f <;> simp only [hq] at h <;> exact htoOption h
    · cases h

end GridView

theorem Output.ofFrame_grid (c : Config) {f : Frame} (htag : f.tag = "grid") :
    ∃ o, Output.ofFrame c f = .ok o ∧ o.markup = (GridView.ofFrame f).render := by
  simp [Output.ofFrame, Output.markupOf, Output.scriptOf, htag, Except.mapError, bind,
    Except.bind, pure, Except.pure]

/-! ## What a paged grid shows -/

/-- What a paged grid frame shows, with `t` rows, page `k` and `n` pages: the frame has a page
size and rows, it closes with the page bar of page `k`, the current page is marked on one
numbered button exactly when `k ≤ n`, and the page information has its three readings. The
buttons back and forward are disabled as `pageBar` says: on page one, and from page `n` on. -/
structure PageBarShown (c : Config) (f : Frame) (pg : Page) : Prop where
  /-- The grid is paged by a truthy page size over a query or at least one row tag. -/
  paged : ∃ sz, f.get? "pageSize" = some sz ∧ sz.truthy = true ∧
    GridView.asInt? sz = some (pg.size : Int) ∧ ((GridView.queryRows f).isSome ∨ f.rows ≠ [])
  /-- `t` counts the query's rows, or the row tags without a query. -/
  total_eq : pg.total = ((GridView.queryRows f).map List.length).getD f.rows.length
  /-- `k` is the page asked for, page one when none is. -/
  page_eq : GridView.asInt? ((f.get? "page").getD (.int 1)) = some (pg.page : Int)
  /-- The grid's markup ends with the bar. -/
  closes_with_bar : ∃ o, Output.ofFrame c f = .ok o ∧
    ∃ top, o.markup = top ++ GridView.pageBar pg ++ "</div>\n"
  /-- One numbered button is the current page's when `k ≤ n`, none past the last page. -/
  current_once : (List.range' (max 1 (pg.page - 2))
      (min pg.totalPages (pg.page + 2) + 1 - max 1 (pg.page - 2))).count pg.page =
    if pg.page ≤ pg.totalPages then 1 else 0
  no_records : pg.info = "No records" ↔ pg.total = 0
  past_end : pg.info = s!"Page {pg.page} of {pg.totalPages}" ↔ 0 < pg.total ∧ pg.totalPages < pg.page
  showing : 0 < pg.total → pg.page ≤ pg.totalPages →
    ∃ s e, pg.info = s!"Showing {s}-{e} of {pg.total}" ∧
      1 ≤ s ∧ s ≤ e ∧ e ≤ pg.total ∧ e - s + 1 ≤ pg.size

/-- **The page bar of a paged grid.** Every grid frame that is paged closes with the bar of its
page: the information, the button back (disabled exactly on page one), the numbered buttons from
`max 1 (k - 2)` to `min n (k + 2)` with the current page marked on one of them exactly when
`k ≤ n`, and the button forward (disabled exactly from page `n` on); the information reads
`No records` exactly without rows, `Page k of n` exactly past the last page of rows, and
otherwise shows a run of at most a page of the rows. -/
theorem page_bar_exact (c : Config) (f : Frame) (pg : Page) (htag : f.tag = "grid")
    (hpage : GridView.pageOf f = some pg) : PageBarShown c f pg := by
  obtain ⟨sz, hsz, htruthy, hrows, s, k, hs, hk, hmake⟩ := GridView.pageOf_eq_some hpage
  obtain ⟨-, hk1, -⟩ := Page.make_ok_bounds hmake
  obtain ⟨htot, hpg, hsize, -⟩ := Page.make_ok_fields hmake
  have hk' : 1 ≤ pg.page := by omega
  obtain ⟨hnone, hpast, hshow⟩ := Page.info_cases hmake
  -- the grid's markup is its view's, which ends with the bar of its page
  obtain ⟨o, ho, hmarkup⟩ := Output.ofFrame_grid c htag
  obtain ⟨top, htop⟩ := GridView.render_of_page (GridView.ofFrame f)
    ((GridView.ofFrame_page f).trans hpage)
  refine ⟨⟨sz, hsz, htruthy, by rw [hs, hsize], hrows⟩, by exact_mod_cast htot,
    by rw [hk, hpg], ⟨o, ho, top, ?_⟩, Page.count_page_links pg hk', hnone, hpast, hshow⟩
  rw [hmarkup, htop, GridView.pagePart_eq_pageBar pg hk']

/-- Ten query rows in pages of three, page two: the bar of page two of four. -/
theorem second_page_bar_shown :
    let f : Frame :=
      { tag := "grid", kind := .grid, id := .str "grid_1",
        attrs := [("name", .str "g"), ("pageSize", .int 3), ("page", .int 2),
          ("query", .list ((List.range 10).map fun i => .obj [("id", .int i)]))] }
    f.tag = "grid" ∧ GridView.pageOf f = some ⟨10, 2, 3, 4, 4, 6⟩ ∧
      PageBarShown {} f ⟨10, 2, 3, 4, 4, 6⟩ := by
  intro f
  have hpage : GridView.pageOf f = some ⟨10, 2, 3, 4, 4, 6⟩ := by decide
  exact ⟨rfl, hpage, page_bar_exact {} f _ rfl hpage⟩

end UiTags
