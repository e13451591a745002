import UiTags.Failure

/-!
# Pages

One page of a row set. With `t` rows, page `k` and page size `p` (both at least one, `t` not
negative): there are `⌈t / p⌉` pages, the page's rows are numbered from
`s = (k - 1) * p + 1` to `max (s - 1) (min (k * p) t)`, and a page past the end holds no rows
(its last row number is `s - 1`). Pages are not clamped.

The page links shown beside a grid are the pages within two of the current one, and the page
information reads `No records`, `Page k of n` for a page past the end, or `Showing s-e of t`.
-/

namespace UiTags

/-- One page of a row set. -/
structure Page where
  total : Nat
  page : Nat
  size : Nat
  totalPages : Nat
  startRow : Nat
  endRow : Nat
  deriving Repr, DecidableEq

namespace Page

/-- The page `page` of `total` rows in pages of `size`; the page size is checked first, then the
page, then the row count. -/
def make (total page size : Int) : Except Failure Page :=
  if size < 1 then .error (.pageSizeBelowOne size)
  else if page < 1 then .error (.pageBelowOne page)
  else if total < 0 then .error (.negativeTotal total)
  else
    let t := total.toNat
    let k := page.toNat
    let p := size.toNat
    let start := (k - 1) * p + 1
    .ok { total := t, page := k, size := p, totalPages := (t + p - 1) / p, startRow := start,
          endRow := max (start - 1) (min (start + p - 1) t) }

/-- Whether the page holds no rows. -/
def isEmpty (pg : Page) : Bool := pg.endRow < pg.startRow

/-- Whether there is a page before this one. -/
def hasPrevious (pg : Page) : Bool := 1 < pg.page

/-- Whether there is a page after this one. -/
def hasNext (pg : Page) : Bool := pg.page < pg.totalPages

/-- The rows of the page, from a list of all rows. -/
def window {α : Type} (pg : Page) (rows : List α) : List α :=
  if pg.isEmpty then [] else (rows.drop (pg.startRow - 1)).take (pg.endRow - (pg.startRow - 1))

/-- The page numbers linked around the current page: those within two of it, from one to the
last page. -/
def links (pg : Page) : List Nat :=
  if pg.totalPages = 0 then []
  else
    let first := max 1 (pg.page - 2)
    let last := min pg.totalPages (pg.page + 2)
    List.range' first (last + 1 - first)

/-- The page information shown beside a grid. -/
def info (pg : Page) : String :=
  if pg.total = 0 then "No records"
  else if pg.isEmpty then s!"Page {pg.page} of {pg.totalPages}"
  else s!"Showing {pg.startRow}-{pg.endRow} of {pg.total}"

end Page

end UiTags
