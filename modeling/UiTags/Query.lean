import UiTags.Page

/-!
# Query pages

A result set sliced to one page, for a grid that pages it: the numbers of the page (row count,
page, page size, page count, first and last row) and the rows on it. The rows, the page and the
page size must all be given; a conversion missing some of them names them, in that order.
-/

namespace UiTags

/-- One page of a result set: its numbers and its rows. -/
structure QueryPage (α : Type) where
  numbers : Page
  rows : List α

namespace QueryPage

/-- The names of the arguments of a conversion that were not given, in order. -/
def missing {α : Type} (rows : Option (List α)) (page size : Option Int) : List String :=
  ([("query", rows.isNone), ("page", page.isNone), ("pageSize", size.isNone)].filter (·.2)).map
    (·.1)

/-- Slice a result set to page `page` of pages of `size` rows. -/
def convert {α : Type} (rows : Option (List α)) (page size : Option Int) :
    Except Failure (QueryPage α) :=
  match rows, page, size with
  | some rows, some page, some size => do
    let pg ← Page.make rows.length page size
    pure ⟨pg, pg.window rows⟩
  | _, _, _ => .error (.missingQueryArguments (missing rows page size))

end QueryPage
end UiTags
