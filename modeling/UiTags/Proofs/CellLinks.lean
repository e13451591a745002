import UiTags.Markup.Grid
import UiTags.Proofs.ContainerLinks
import Mathlib.Data.List.TakeWhile

/-!
# Linked grid cells

A grid column with a link `h` and a link key `k` links each of its cells to `h`, then `?` (or `&`
when `h` already holds a `?`), then `k=v`, where `v` is the row's value under `k` as the cell
shows it (found by exact name, else ignoring case). Nothing in the link is URL-encoded: the key
and the value are placed as they are, and only the markup escapes the whole link.

Read as `application/x-www-form-urlencoded`, the link's query (the text after its first `?`, up to
a `#`) is cut at every `&`, each piece at its first `=`, a `+` stands for a blank, and percent
escapes are decoded. So the link adds exactly the parameter `(k, v)` after those of `h` when the
key and the value hold none of `&`, `+`, `#` or a percent escape, and the key no `=`; a value
such as `5&admin=1` adds two parameters, `id=5` and `admin=1`.

Main results:

- `Link.params_append_amp`: the parameters of two queries joined by `&`.
- `Link.params_of_plain`: a key and value that need no encoding read back as themselves.
- `GridView.cellHref_keyed`: a keyed link is the plain concatenation.
- `cell_links_unencoded`: the link of every keyed cell, as written and as read.
- `ampersand_value_splits`: a value holding `&` and `=` is read as two parameters.
-/

namespace UiTags

/-! ## Reading a link's query -/

namespace Link

/-- The query of a link: the text after its first `?`, up to a `#`; empty without a `?`. -/
def queryText (link : List Char) : List Char :=
  ((link.takeWhile (· != '#')).dropWhile (· != '?')).drop 1

/-- A parameter's name or value as read: `+` stands for a blank, then escapes are decoded. -/
def decodePart (cs : List Char) : String :=
  String.ofList (Script.percentDecode (cs.map fun c => if c = '+' then ' ' else c))

/-- One piece of a query as a parameter: the name before its first `=`, the value after it,
empty when there is no `=`. -/
def param (piece : List Char) : String × String :=
  (decodePart (piece.takeWhile (· != '=')), decodePart ((piece.dropWhile (· != '=')).drop 1))

/-- The parameters of a query read as `application/x-www-form-urlencoded`: its `&`-separated
pieces, empty ones skipped, each read as a parameter. -/
def params (q : List Char) : List (String × String) :=
  ((q.splitOn '&').filter (!·.isEmpty)).map param

/-- Text that a query reads as it is: no `&`, `+` or `#`, and no percent escape. -/
def Plain (cs : List Char) : Prop :=
  '&' ∉ cs ∧ '+' ∉ cs ∧ '#' ∉ cs ∧ Script.hasEscape cs = false

theorem params_nil : params [] = [] := rfl

theorem bne_of_not_mem {a : Char} {l : List Char} (h : a ∉ l) : ∀ x ∈ l, (x != a) = true :=
  fun _ hx => bne_iff_ne.2 fun e => h (e ▸ hx)

/-- Queries joined by `&` read as the parameters of the first and then of the second. -/
theorem params_append_amp (q r : List Char) : params (q ++ '&' :: r) = params q ++ params r := by
  unfold params
  rw [List.splitOn, List.splitOnP_append_cons q r (by decide), ← List.splitOn, ← List.splitOn,
    List.filter_append, List.map_append]

/-- A query without `&` is one piece. -/
theorem params_of_not_mem {r : List Char} (hr : '&' ∉ r) (hne : r ≠ []) :
    params r = [param r] := by
  have hsplit : r.splitOn '&' = [r] := by
    rw [List.splitOn]
    apply List.splitOnP_eq_singleton
    intro x hx
    exact beq_eq_false_iff_ne.2 fun e => hr (e ▸ hx)
  simp [params, hsplit, hne]

theorem decodePart_of_plain {cs : List Char} (hplus : '+' ∉ cs) (hesc : Script.hasEscape cs = false) :
    decodePart cs = String.ofList cs := by
  have hmap : (cs.map fun c => if c = '+' then ' ' else c) = cs := by
    exact (List.map_congr_left (g := id) fun c hc =>
      if_neg fun (e : c = '+') => hplus (e ▸ hc)).trans (List.map_id cs)
  rw [decodePart, hmap, Script.percentDecode_of_not_hasEscape hesc]

/-- A key without `=` and a value, neither needing encoding, read back as themselves. -/
theorem param_of_plain {k v : List Char} (hk : Plain k) (heq : '=' ∉ k) (hv : Plain v) :
    param (k ++ '=' :: v) = (String.ofList k, String.ofList v) := by
  have hkeq := bne_of_not_mem heq
  have htake : (k ++ '=' :: v).takeWhile (· != '=') = k := by
    rw [List.takeWhile_append_of_pos hkeq]
    simp
  have hdrop : (k ++ '=' :: v).dropWhile (· != '=') = '=' :: v := by
    rw [List.dropWhile_append_of_pos hkeq]
    simp
  rw [param, htake, hdrop, List.drop_one, List.tail_cons, decodePart_of_plain hk.2.1 hk.2.2.2,
    decodePart_of_plain hv.2.1 hv.2.2.2]

/-- The parameters a key and value add to a query: exactly themselves. -/
theorem params_of_plain {k v : List Char} (hk : Plain k) (heq : '=' ∉ k) (hv : Plain v) :
    params (k ++ '=' :: v) = [(String.ofList k, String.ofList v)] := by
  have hamp : '&' ∉ k ++ '=' :: v := by
    simp only [List.mem_append, List.mem_cons, not_or]
    exact ⟨hk.1, by decide, hv.1⟩
  rw [params_of_not_mem hamp (by simp), param_of_plain hk heq hv]

/-- Before a `#`-free tail, a link holding a `?` and no `#` keeps its query and extends it. -/
theorem queryText_append_of_mem {h r : List Char} (hq : '?' ∈ h) (hh : '#' ∉ h) (hr : '#' ∉ r) :
    queryText (h ++ r) = queryText h ++ r := by
  have hfree : ∀ {l : List Char}, '#' ∉ l → l.takeWhile (· != '#') = l := fun hl =>
    List.takeWhile_eq_self_iff.2 (bne_of_not_mem hl)
  -- the text from the first `?` on is not empty
  obtain ⟨a, rest, hsplit⟩ : ∃ a rest, h.dropWhile (· != '?') = a :: rest := by
    cases hd : h.dropWhile (· != '?') with
    | nil =>
      rw [List.dropWhile_eq_nil_iff] at hd
      simp at hd
      exact absurd (hd '?' hq) (by decide)
    | cons a rest => exact ⟨a, rest, rfl⟩
  have hnot : (h.dropWhile (· != '?')).isEmpty = false := by simp [hsplit]
  rw [queryText, queryText, hfree (by simp [hh, hr]), hfree hh, List.dropWhile_append, hnot,
    if_neg (by decide), hsplit]
  rfl

/-- A link without `?` and `#` has no query. -/
theorem queryText_of_not_mem {h : List Char} (hq : '?' ∉ h) : queryText h = [] := by
  have hall : (h.takeWhile (· != '#')).dropWhile (· != '?') = [] := by
    rw [List.dropWhile_eq_nil_iff]
    intro x hx
    exact bne_of_not_mem hq x ((List.takeWhile_sublist _).subset hx)
  rw [queryText, hall]
  rfl

/-- A `?` placed after a link without `?` or `#` starts the query. -/
theorem queryText_append_question {h r : List Char} (hq : '?' ∉ h) (hh : '#' ∉ h)
    (hr : '#' ∉ r) : queryText (h ++ '?' :: r) = r := by
  have hfree : (h ++ '?' :: r).takeWhile (· != '#') = h ++ '?' :: r :=
    List.takeWhile_eq_self_iff.2 fun x hx => by
      simp only [List.mem_append, List.mem_cons] at hx
      rcases hx with hx | rfl | hx
      · exact bne_of_not_mem hh x hx
      · decide
      · exact bne_of_not_mem hr x hx
  have hnone := bne_of_not_mem hq
  rw [queryText, hfree, List.dropWhile_append_of_pos hnone]
  simp

end Link

/-! ## The link of a keyed cell -/

namespace GridView

section Keyed

variable {c : Column} {h k : String} (hh : c.get? "href" = some (.str h)) (hh0 : h ≠ "")
  (hk : c.get? "hrefKey" = some (.str k)) (hk0 : k ≠ "")
include hh hh0 hk hk0

/-- A keyed link is the column's link, the separator, the key, `=` and the row's value as the
cell shows it, placed as they are. -/
theorem cellHref_keyed (sortable editable : Bool) (decls : List String)
    (data : List (String × Value)) :
    cellHref (column c sortable editable decls) data =
      some (h ++ (if '?' ∈ h.toList then "&" else "?") ++ k ++ "=" ++
        cellText (lookupCell data k)) := by
  have htruthy : ∀ {s : String}, s ≠ "" → (Value.str s).truthy = true := fun hs => by
    simpa [Value.truthy, String.isEmpty_iff] using hs
  simp [cellHref, column, hh, hk, htruthy hh0, htruthy hk0, Value.text]

end Keyed

/-- The cell of a row under a column: it links as the column links the row. -/
theorem row_cell {cols : List ColumnView} {i : Nat} {col : ColumnView} (hcol : cols[i]? = some col)
    (index : Nat) (data : List (String × Value)) :
    ∃ cell, (row index data cols).cells[i]? = some cell ∧ cell.href = cellHref col data := by
  let text := cellText (lookupCell data col.name)
  refine ⟨
    { column := col.name
      type := col.type
      text := (col.labels.reverse.lookup text).getD text
      style := col.cellStyle
      readonly := col.readonly
      href := cellHref col data
      target := col.target }, ?_, rfl⟩
  simp [row, hcol, text]

/-- The content of a cell with a link, unless it shows an image: an anchor whose `href` holds the
link escaped. -/
theorem cellContent_link {cell : CellView} {link : String} (hhref : cell.href = some link)
    (hne : link ≠ "") (himage : (cell.type == .str "image" && !cell.text.isEmpty) = false) :
    ∃ rest, cellContent cell = "<a href=\"" ++ Html.escape link ++ "\"" ++ rest := by
  have hlink : link.isEmpty = false := by simpa [String.isEmpty_iff] using hne
  unfold cellContent
  rw [himage, hhref]
  simp only [Bool.false_eq_true, if_false, hlink, String.append_assoc]
  exact ⟨_, rfl⟩

end GridView

/-! ## What a keyed cell links to -/

/-- **Keyed cell links are not encoded.** For every column whose link `h` and link key `k` are
non-empty texts, every row's cell under that column links to `h`, then `&` if `h` holds a `?` and
`?` otherwise, then `k`, `=` and the row's value `v` under `k` as the cell shows it; unless the
column shows images and the cell's text is not empty, the cell is an anchor whose `href` holds that
link escaped. Read as `application/x-www-form-urlencoded`, the link's query is the query of `h`
followed by the one parameter `(k, v)` whenever `h` holds no `#`, the key and the value hold no
`&`, `+`, `#` or percent escape, and the key no `=`. -/
theorem cell_links_unencoded (c : Column) (sortable editable : Bool) (decls : List String)
    (h k : String) (hh : c.get? "href" = some (.str h)) (hh0 : h ≠ "")
    (hk : c.get? "hrefKey" = some (.str k)) (hk0 : k ≠ "")
    (cols : List ColumnView) (i : Nat)
    (hcol : cols[i]? = some (GridView.column c sortable editable decls))
    (index : Nat) (data : List (String × Value)) :
    ∃ cell, (GridView.row index data cols).cells[i]? = some cell ∧
      cell.href = some (h ++ (if '?' ∈ h.toList then "&" else "?") ++ k ++ "=" ++
        GridView.cellText (GridView.lookupCell data k)) ∧
      ((cell.type == .str "image" && !cell.text.isEmpty) = false →
        ∃ rest, GridView.cellContent cell = "<a href=\"" ++
          Html.escape (h ++ (if '?' ∈ h.toList then "&" else "?") ++ k ++ "=" ++
            GridView.cellText (GridView.lookupCell data k)) ++ "\"" ++ rest) ∧
      ('#' ∉ h.toList → Link.Plain k.toList → '=' ∉ k.toList →
        Link.Plain (GridView.cellText (GridView.lookupCell data k)).toList →
        Link.params (Link.queryText (h ++ (if '?' ∈ h.toList then "&" else "?") ++ k ++ "=" ++
          GridView.cellText (GridView.lookupCell data k)).toList) =
          Link.params (Link.queryText h.toList) ++
            [(k, GridView.cellText (GridView.lookupCell data k))]) := by
  obtain ⟨v, hv⟩ : ∃ v, GridView.cellText (GridView.lookupCell data k) = v := ⟨_, rfl⟩
  rw [hv]
  have hhref := GridView.cellHref_keyed hh hh0 hk hk0 sortable editable decls data
  rw [hv] at hhref
  obtain ⟨cell, hcell, hcellHref⟩ := GridView.row_cell hcol index data
  rw [hhref] at hcellHref
  refine ⟨cell, hcell, hcellHref, fun himage => ?_, fun hhash hkp heq hvp => ?_⟩
  · exact GridView.cellContent_link hcellHref (by simp [hh0]) himage
  · have hpiece := Link.params_of_plain hkp heq hvp
    simp only [String.ofList_toList] at hpiece
    have htail : '#' ∉ k.toList ++ '=' :: v.toList := by
      simp only [List.mem_append, List.mem_cons, not_or]
      exact ⟨hkp.2.2.1, by decide, hvp.2.2.1⟩
    split
    · -- `h` has a query already: the pair is one more piece of it
      rename_i hq
      have hl : (h ++ "&" ++ k ++ "=" ++ v).toList =
          h.toList ++ '&' :: (k.toList ++ '=' :: v.toList) := by simp
      rw [hl, Link.queryText_append_of_mem hq hhash (List.not_mem_cons_of_ne_of_not_mem
        (by decide) htail), Link.params_append_amp, hpiece]
    · -- the `?` starts the query, and the pair is all of it
      rename_i hq
      have hl : (h ++ "?" ++ k ++ "=" ++ v).toList =
          h.toList ++ '?' :: (k.toList ++ '=' :: v.toList) := by simp
      rw [hl, Link.queryText_append_question hq hhash htail, Link.queryText_of_not_mem hq,
        Link.params_nil, List.nil_append, hpiece]

/-- A users link keyed by `id`: the row with `id` five links to `/users/view?id=5`, whose query
reads as the one parameter `(id, 5)`. -/
theorem users_link_reads_id :
    let c : Column :=
      { name := "name", header := "name", index := 0,
        attrs := [("href", .str "/users/view"), ("hrefKey", .str "id")] }
    let data : List (String × Value) := [("id", .int 5), ("name", .str "Ann")]
    c.get? "href" = some (.str "/users/view") ∧ c.get? "hrefKey" = some (.str "id") ∧
      ∃ cell, (GridView.row 0 data [GridView.column c false false []]).cells[0]? = some cell ∧
        cell.href = some "/users/view?id=5" ∧
        Link.params (Link.queryText "/users/view?id=5".toList) = [("id", "5")] := by
  intro c data
  have hh : c.get? "href" = some (.str "/users/view") := rfl
  have hk : c.get? "hrefKey" = some (.str "id") := rfl
  have hlink : "/users/view" ++ (if '?' ∈ "/users/view".toList then "&" else "?") ++ "id" ++ "=" ++
      GridView.cellText (GridView.lookupCell data "id") = "/users/view?id=5" := by decide
  obtain ⟨cell, hcell, hhref, -, hparams⟩ := cell_links_unencoded c false false [] "/users/view" "id"
    hh (by decide) hk (by decide) [GridView.column c false false []] 0 rfl 0 data
  rw [hlink] at hhref hparams
  refine ⟨hh, hk, cell, hcell, hhref, ?_⟩
  rw [hparams (by decide) ⟨by decide, by decide, by decide, rfl⟩ (by decide)
    (by rw [show GridView.cellText (GridView.lookupCell data "id") = "5" by decide]
        exact ⟨by decide, by decide, by decide, rfl⟩)]
  decide

/-- A value holding `&` and `=` is read as two parameters: the link to `/users/view` keyed by
`id` for the value `5&admin=1` reads as `id=5` and `admin=1`, not as the one parameter
`(id, 5&admin=1)`. -/
theorem ampersand_value_splits :
    (GridView.row 0 [("id", .str "5&admin=1"), ("name", .str "Ann")]
        [GridView.column
          { name := "name", header := "name", index := 0,
            attrs := [("href", .str "/users/view"), ("hrefKey", .str "id")] }
          false false []]).cells.map (·.href) = [some "/users/view?id=5&admin=1"] ∧
      Link.params (Link.queryText "/users/view?id=5&admin=1".toList) =
        [("id", "5"), ("admin", "1")] := by
  decide

end UiTags
