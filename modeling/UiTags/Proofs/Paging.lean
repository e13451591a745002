import UiTags.Page
import Mathlib.Data.Rat.Floor

/-!
# Paging arithmetic

Paging is exact for every row count, page and page size, with no bound on them. It refuses the
page size, then the page, then the row count, each when out of range; otherwise the page
counts `⌈t / p⌉` pages, numbers its rows from `s = (k - 1) * p + 1` to
`max (s - 1) (min (k * p) t)`, holds no rows exactly when it lies past the last page, and its
window of a list of `t` rows is the slice from `(k - 1) * p` to `k * p`. The windows of the pages
`1, …, n` are not empty, all but the last hold a full page, and together they are the rows in
order.

Main results:

- `Page.make_error_iff`: the refusals of paging, in the order they are checked.
- `Page.ceilDiv_eq_ceil`: the page count is the ceiling of the row count over the page size.
- `Page.window_eq_extract`: a page's window is the slice of the rows it numbers.
- `Page.windows_partition`: the windows of all the pages split the rows into full pages and a
  last one.
- `Page.paging_exact`: all of it together.
-/

namespace UiTags
namespace Page

/-- The page count of `t` rows in pages of `p`, which is at most `m` exactly when `m` pages of
`p` rows hold all `t`. -/
theorem ceilDiv_le_iff {t p m : Nat} (hp : 1 ≤ p) : (t + p - 1) / p ≤ m ↔ t ≤ m * p := by
  rw [Nat.div_le_iff_le_mul_add_pred (by omega), Nat.mul_comm m p]
  omega

/-- The page count is the ceiling of the row count over the page size. -/
theorem ceilDiv_eq_ceil (t p : Nat) (hp : 1 ≤ p) :
    (((t + p - 1) / p : Nat) : ℤ) = ⌈(t : ℚ) / (p : ℚ)⌉ := by
  have hpq : (0 : ℚ) < p := by exact_mod_cast hp
  obtain ⟨n, hn⟩ : ∃ n, (t + p - 1) / p = n := ⟨_, rfl⟩
  have hle : ∀ m, n ≤ m ↔ t ≤ m * p := fun m => hn ▸ ceilDiv_le_iff hp
  rw [hn]
  apply le_antisymm
  · -- fewer pages than the count would leave rows over
    rw [Int.le_ceil_iff]
    rcases n with _ | n
    · have : (0 : ℚ) ≤ t / p := by positivity
      push_cast
      linarith
    · have hover : n * p < t := Nat.lt_of_not_le fun h => absurd ((hle n).2 h) (by omega)
      rw [lt_div_iff₀ hpq]
      push_cast
      have : ((n * p : Nat) : ℚ) < t := by exact_mod_cast hover
      push_cast at this
      linarith
  · -- the count's pages hold every row
    rw [Int.ceil_le, div_le_iff₀ hpq]
    have : t ≤ n * p := (hle n).1 le_rfl
    exact_mod_cast this

variable {total page size : Int}

/-- Paging a page of at least one, in pages of at least one, over rows not negative gives the
page with its fields in closed form. -/
theorem make_eq_ok (hs : 1 ≤ size) (hp : 1 ≤ page) (ht : 0 ≤ total) :
    Page.make total page size = .ok
      { total := total.toNat, page := page.toNat, size := size.toNat,
        totalPages := (total.toNat + size.toNat - 1) / size.toNat,
        startRow := (page.toNat - 1) * size.toNat + 1,
        endRow := max ((page.toNat - 1) * size.toNat)
          (min (page.toNat * size.toNat) total.toNat) } := by
  have hs' : ¬ size < 1 := by omega
  have hp' : ¬ page < 1 := by omega
  have ht' : ¬ total < 0 := by omega
  simp only [Page.make, hs', hp', ht', if_false, Except.ok.injEq, Page.mk.injEq, true_and]
  -- the last row of a full page is `k * p`
  obtain ⟨k, hk⟩ : ∃ k, page.toNat = k + 1 := ⟨page.toNat - 1, by omega⟩
  rw [hk, Nat.add_sub_cancel, Nat.add_sub_cancel, Nat.succ_mul]
  congr 2
  omega

/-- Paging fails exactly when the page size is below one, else when the page is, else when the
row count is negative, with the refusal naming the value. -/
theorem make_error_iff {e : Failure} :
    Page.make total page size = .error e ↔
      (size < 1 ∧ e = .pageSizeBelowOne size) ∨
      (1 ≤ size ∧ page < 1 ∧ e = .pageBelowOne page) ∨
      (1 ≤ size ∧ 1 ≤ page ∧ total < 0 ∧ e = .negativeTotal total) := by
  unfold Page.make
  split_ifs with hs hp ht <;> simp only [Except.error.injEq, false_iff]
  · -- the page size is checked first
    constructor
    · rintro rfl
      exact .inl ⟨hs, rfl⟩
    · rintro (⟨-, rfl⟩ | ⟨h, -⟩ | ⟨h, -⟩)
      · rfl
      · omega
      · omega
  · -- then the page
    constructor
    · rintro rfl
      exact .inr (.inl ⟨by omega, hp, rfl⟩)
    · rintro (⟨h, -⟩ | ⟨-, -, rfl⟩ | ⟨-, h, -⟩)
      · omega
      · rfl
      · omega
  · -- then the row count
    constructor
    · rintro rfl
      exact .inr (.inr ⟨by omega, by omega, ht, rfl⟩)
    · rintro (⟨h, -⟩ | ⟨-, h, -⟩ | ⟨-, -, -, rfl⟩)
      · omega
      · omega
      · rfl
  · -- nothing is refused
    rintro (⟨h, -⟩ | ⟨-, h, -⟩ | ⟨-, -, h, -⟩) <;> omega

/-- Every refusal of paging is an invalid argument. -/
theorem make_error_kind {e : Failure} (h : Page.make total page size = .error e) :
    e.kind = .invalidArgument := by
  rcases make_error_iff.1 h with ⟨-, rfl⟩ | ⟨-, -, rfl⟩ | ⟨-, -, -, rfl⟩ <;> rfl

section Fields

variable {pg : Page} (h : Page.make total page size = .ok pg)
include h

theorem make_ok_bounds : 1 ≤ size ∧ 1 ≤ page ∧ 0 ≤ total := by
  unfold Page.make at h
  split at h
  · cases h
  split at h
  · cases h
  split at h
  · cases h
  omega

/-- The fields of a page, read as integers. -/
theorem make_ok_fields :
    (pg.total : ℤ) = total ∧ (pg.page : ℤ) = page ∧ (pg.size : ℤ) = size ∧
      (pg.totalPages : ℤ) = ⌈(total : ℚ) / (size : ℚ)⌉ ∧
      (pg.startRow : ℤ) = (page - 1) * size + 1 ∧
      (pg.endRow : ℤ) = max (pg.startRow - 1 : ℤ) (min (page * size) total) := by
  obtain ⟨hs, hp, ht⟩ := make_ok_bounds h
  rw [make_eq_ok hs hp ht, Except.ok.injEq] at h
  subst h
  have hceil := ceilDiv_eq_ceil total.toNat size.toNat (by omega)
  have htq : ((total.toNat : ℕ) : ℚ) = (total : ℚ) := by
    rw [← Int.cast_natCast, Int.toNat_of_nonneg ht]
  have hsq : ((size.toNat : ℕ) : ℚ) = (size : ℚ) := by
    rw [← Int.cast_natCast, Int.toNat_of_nonneg (by omega)]
  rw [htq, hsq] at hceil
  obtain ⟨k, hk⟩ : ∃ k, page.toNat = k + 1 := ⟨page.toNat - 1, by omega⟩
  have hk' : page = k + 1 := by omega
  dsimp only
  rw [hceil, hk, Nat.add_sub_cancel]
  have hsz : (size.toNat : ℤ) = size := Int.toNat_of_nonneg (by omega)
  refine ⟨by omega, by omega, by omega, rfl, by push_cast; rw [hk', hsz]; ring, ?_⟩
  push_cast
  rw [hk', Int.toNat_of_nonneg (by omega), Int.toNat_of_nonneg (by omega)]
  ring_nf

/-- A page lies past the last page exactly when it holds no rows. -/
theorem isEmpty_iff_lt : pg.isEmpty = true ↔ pg.totalPages < pg.page := by
  obtain ⟨hs, hp, ht⟩ := make_ok_bounds h
  rw [make_eq_ok hs hp ht, Except.ok.injEq] at h
  subst h
  obtain ⟨k, hk⟩ : ∃ k, page.toNat = k + 1 := ⟨page.toNat - 1, by omega⟩
  simp only [isEmpty, decide_eq_true_eq, hk, Nat.add_sub_cancel]
  -- the page is past the end when the full pages before it hold every row
  have hpast := ceilDiv_le_iff (t := total.toNat) (m := k) (by omega : 1 ≤ size.toNat)
  rw [Nat.succ_mul]
  constructor <;> intro h' <;> omega

/-- A page's window of `t` rows is the slice of the rows from `(k - 1) * p` to `k * p`. -/
theorem window_eq_extract {α : Type} {rows : List α} (hlen : (rows.length : ℤ) = total) :
    pg.window rows = rows.extract ((page.toNat - 1) * size.toNat) (page.toNat * size.toNat) := by
  obtain ⟨hs, hp, ht⟩ := make_ok_bounds h
  rw [make_eq_ok hs hp ht, Except.ok.injEq] at h
  subst h
  obtain ⟨k, hk⟩ : ∃ k, page.toNat = k + 1 := ⟨page.toNat - 1, by omega⟩
  have ht' : total.toNat = rows.length := by omega
  simp only [window, isEmpty, hk, Nat.add_sub_cancel, Nat.succ_mul, ht',
    List.extract_eq_take_drop]
  split
  · -- past the end the slice starts after the last row
    rename_i hpast
    rw [List.drop_eq_nil_of_le (by simp at hpast; omega), List.take_nil]
  · rw [List.take_eq_take_iff]
    simp only [List.length_drop]
    omega

end Fields

/-- The windows of the `m` pages after page `a` are the rows after the first `a` pages, up to
`m` full pages. -/
theorem flatten_windows {α : Type} (rows : List α) {p : Nat} :
    ∀ (a m : Nat),
      ((List.range' (a + 1) m).map fun k => rows.extract ((k - 1) * p) (k * p)).flatten =
        (rows.drop (a * p)).take (m * p)
  | _, 0 => by simp
  | a, m + 1 => by
    -- the first page's window, then the rest from the next page on
    rw [List.range'_succ, List.map_cons, List.flatten_cons, flatten_windows rows (a + 1) m,
      Nat.add_sub_cancel, List.extract_eq_take_drop, Nat.succ_mul, Nat.add_sub_cancel_left,
      Nat.succ_mul, Nat.add_comm (m * p), List.take_add, List.drop_drop]

/-- The rows of page `k` in pages of `p`: a full page while rows remain past it, the rest
otherwise. -/
theorem length_extract_page {α : Type} (rows : List α) {k p : Nat} (hk : 1 ≤ k) :
    (rows.extract ((k - 1) * p) (k * p)).length = min p (rows.length - (k - 1) * p) := by
  obtain ⟨j, rfl⟩ : ∃ j, k = j + 1 := ⟨k - 1, by omega⟩
  simp [Nat.succ_mul]

/-- The pages `1, …, n` of a list of rows, `n` being their page count: the windows are not empty,
all but the last hold a full page, and together they are the rows in order. -/
theorem windows_partition {α : Type} (rows : List α) {size : Int} (hs : 1 ≤ size) :
    ∃ pgs : List Page,
      List.Forall₂ (fun (k : Nat) pg => Page.make rows.length k size = .ok pg)
        (List.range' 1 pgs.length) pgs ∧
      (∀ pg ∈ pgs, pg.totalPages = pgs.length) ∧
      (pgs.map (·.window rows)).flatten = rows ∧
      (∀ pg ∈ pgs, pg.window rows ≠ []) ∧
      ∀ pg ∈ pgs.dropLast, (pg.window rows).length = size.toNat := by
  obtain ⟨p, hpdef⟩ : ∃ p, size.toNat = p := ⟨_, rfl⟩
  have hp : 1 ≤ p := by omega
  obtain ⟨n, hn⟩ : ∃ n, (rows.length + p - 1) / p = n := ⟨_, rfl⟩
  have hle : ∀ m, n ≤ m ↔ rows.length ≤ m * p := fun m => hn ▸ ceilDiv_le_iff hp
  -- every page from the first on is known: its count and its window
  have hmake : ∀ k : Nat, 1 ≤ k → ∃ pg, Page.make rows.length k size = .ok pg ∧
      pg.totalPages = n ∧ pg.window rows = rows.extract ((k - 1) * p) (k * p) := by
    intro k hk
    have hok := make_eq_ok hs (by omega : (1 : Int) ≤ k) (by omega : (0 : Int) ≤ rows.length)
    refine ⟨_, hok, by simp [← hn, hpdef], ?_⟩
    simpa [hpdef] using window_eq_extract hok rfl
  have : Nonempty Page := ⟨⟨0, 0, 0, 0, 0, 0⟩⟩
  choose! pageOf hpageOf using hmake
  have hmem : ∀ k ∈ List.range' 1 n, 1 ≤ k ∧ k ≤ n := fun k hk => by
    have := List.mem_range'_1.1 hk
    omega
  refine ⟨(List.range' 1 n).map pageOf, ?_, ?_, ?_, ?_, ?_⟩
  · rw [List.length_map, List.length_range', List.forall₂_map_right_iff]
    exact List.forall₂_same.2 fun k hk => (hpageOf k (hmem k hk).1).1
  · intro pg hpg
    obtain ⟨k, hk, rfl⟩ := List.mem_map.1 hpg
    rw [List.length_map, List.length_range']
    exact (hpageOf k (hmem k hk).1).2.1
  · have hwin : (List.range' 1 n).map (fun k => (pageOf k).window rows) =
        (List.range' 1 n).map (fun k => rows.extract ((k - 1) * p) (k * p)) :=
      List.map_congr_left fun k hk => (hpageOf k (hmem k hk).1).2.2
    rw [List.map_map]
    change ((List.range' 1 n).map (fun k => (pageOf k).window rows)).flatten = rows
    rw [hwin, flatten_windows rows 0, Nat.zero_mul, List.drop_zero]
    exact List.take_of_length_le ((hle n).1 le_rfl)
  · intro pg hpg
    obtain ⟨k, hk, rfl⟩ := List.mem_map.1 hpg
    obtain ⟨hk1, hkn⟩ := hmem k hk
    rw [(hpageOf k hk1).2.2, ne_eq, ← List.length_eq_zero_iff, length_extract_page rows hk1]
    -- a page up to the count starts before the last row
    have : ¬ rows.length ≤ (k - 1) * p := fun h => absurd ((hle (k - 1)).2 h) (by omega)
    omega
  · intro pg hpg
    rcases n with _ | n
    · simp at hpg
    rw [List.range'_1_concat, List.map_append, List.map_singleton, List.dropLast_concat] at hpg
    obtain ⟨k, hk, rfl⟩ := List.mem_map.1 hpg
    obtain ⟨hk1, hkn⟩ := List.mem_range'_1.1 hk
    rw [(hpageOf k hk1).2.2, length_extract_page rows hk1, hpdef]
    -- a page before the last one ends at or before the last row
    have : ¬ rows.length ≤ k * p := fun h => absurd ((hle k).2 h) (by omega)
    have : (k - 1) * p + p = k * p := by
      rw [← Nat.succ_mul, Nat.succ_eq_add_one, Nat.sub_add_cancel hk1]
    omega

/-- Paging over every row count, page and page size. It is refused exactly when the page size,
the page or the row count is out of range, with an invalid argument naming the first one out of
range in that order. Otherwise its page has a positive page, page size and first row, counts
`⌈t / p⌉` pages, numbers its rows from `(k - 1) * p + 1` to `max (s - 1) (min (k * p) t)`,
is empty exactly past the last page, has a next page exactly before it, and its window of `t`
rows is the slice from `(k - 1) * p` to `k * p`. The windows of the pages `1, …, n` of any rows
are not empty, all but the last hold `p` rows, and together they are the rows. -/
theorem paging_exact (total page size : Int) :
    ((∃ e, Page.make total page size = .error e) ↔ size < 1 ∨ page < 1 ∨ total < 0) ∧
    (∀ e, Page.make total page size = .error e →
      e.kind = .invalidArgument ∧
      e = if size < 1 then .pageSizeBelowOne size else if page < 1 then .pageBelowOne page
        else .negativeTotal total) ∧
    (∀ pg, Page.make total page size = .ok pg →
      1 ≤ pg.page ∧ 1 ≤ pg.size ∧ 1 ≤ pg.startRow ∧
      (pg.total : ℤ) = total ∧ (pg.page : ℤ) = page ∧ (pg.size : ℤ) = size ∧
      (pg.totalPages : ℤ) = ⌈(total : ℚ) / (size : ℚ)⌉ ∧
      (pg.startRow : ℤ) = (page - 1) * size + 1 ∧
      (pg.endRow : ℤ) = max (pg.startRow - 1 : ℤ) (min (page * size) total) ∧
      (pg.isEmpty = true ↔ pg.totalPages < pg.page) ∧
      (pg.hasNext = true ↔ pg.page < pg.totalPages) ∧
      ∀ {α : Type} (rows : List α), (rows.length : ℤ) = total →
        pg.window rows = rows.extract ((page - 1) * size).toNat (page * size).toNat) ∧
    ∀ {α : Type} (rows : List α), 1 ≤ size →
      ∃ pgs : List Page,
        List.Forall₂ (fun (k : Nat) pg => Page.make rows.length k size = .ok pg)
          (List.range' 1 pgs.length) pgs ∧
        (∀ pg ∈ pgs, pg.totalPages = pgs.length) ∧
        (pgs.map (·.window rows)).flatten = rows ∧
        (∀ pg ∈ pgs, pg.window rows ≠ []) ∧
        ∀ pg ∈ pgs.dropLast, (pg.window rows).length = size.toNat := by
  refine ⟨⟨fun ⟨e, he⟩ => ?_, fun hout => ?_⟩, fun e he => ⟨make_error_kind he, ?_⟩,
    fun pg hpg => ?_, fun rows hs => windows_partition rows hs⟩
  · rcases make_error_iff.1 he with ⟨h, -⟩ | ⟨-, h, -⟩ | ⟨-, -, h, -⟩ <;> omega
  · -- the first value out of range names the refusal
    by_cases hs : size < 1
    · exact ⟨_, make_error_iff.2 (.inl ⟨hs, rfl⟩)⟩
    by_cases hp : page < 1
    · exact ⟨_, make_error_iff.2 (.inr (.inl ⟨by omega, hp, rfl⟩))⟩
    · exact ⟨_, make_error_iff.2 (.inr (.inr ⟨by omega, by omega, by omega, rfl⟩))⟩
  · rcases make_error_iff.1 he with ⟨hs, rfl⟩ | ⟨hs, hp, rfl⟩ | ⟨hs, hp, -, rfl⟩
    · rw [if_pos hs]
    · rw [if_neg (by omega), if_pos hp]
    · rw [if_neg (by omega), if_neg (by omega)]
  · obtain ⟨hs, hp, ht⟩ := make_ok_bounds hpg
    obtain ⟨htot, hpage, hsize, hcount, hstart, hend⟩ := make_ok_fields hpg
    have hbefore : 0 ≤ (page - 1) * size := mul_nonneg (by omega) (by omega)
    refine ⟨by omega, by omega, by omega, htot, hpage, hsize, hcount, hstart, hend,
      isEmpty_iff_lt hpg, by simp [hasNext], fun rows hlen => ?_⟩
    -- the slice's ends, read as row positions
    have ha : ((page - 1) * size).toNat = (page.toNat - 1) * size.toNat := by
      rw [← Int.toNat_natCast ((page.toNat - 1) * size.toNat)]
      push_cast [Nat.one_le_iff_ne_zero.2 (by omega : page.toNat ≠ 0)]
      rw [Int.toNat_of_nonneg (by omega), Int.toNat_of_nonneg (by omega)]
    have hb : (page * size).toNat = page.toNat * size.toNat := by
      rw [← Int.toNat_natCast (page.toNat * size.toNat)]
      push_cast
      rw [Int.toNat_of_nonneg (by omega), Int.toNat_of_nonneg (by omega)]
    rw [ha, hb]
    exact window_eq_extract hpg hlen

/-- Ten rows in pages of three: page four holds the last row alone, and the pages split the rows
into full pages of three and a last one. -/
theorem paging_ten_rows_by_three :
    Page.make 10 4 3 = .ok ⟨10, 4, 3, 4, 10, 10⟩ ∧
      (⟨10, 4, 3, 4, 10, 10⟩ : Page).window (List.range 10) = [9] ∧
      ∃ pgs : List Page, (pgs.map (·.window (List.range 10))).flatten = List.range 10 ∧
        ∀ pg ∈ pgs.dropLast, (pg.window (List.range 10)).length = 3 := by
  have hpg : Page.make 10 4 3 = .ok ⟨10, 4, 3, 4, 10, 10⟩ := rfl
  obtain ⟨-, -, -, -, -, -, -, -, -, -, -, hwin⟩ := (paging_exact 10 4 3).2.2.1 _ hpg
  obtain ⟨pgs, -, -, hflat, -, hfull⟩ := (paging_exact 10 4 3).2.2.2 (List.range 10) (by decide)
  exact ⟨hpg, by rw [hwin (List.range 10) (by simp)]; decide, pgs, hflat, hfull⟩

end Page
end UiTags
