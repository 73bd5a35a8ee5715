import Mathlib.Algebra.Order.Floor.Div
import Tabula.Page

/-!
# Where pages lie

The number of pages is the number of rows divided by the page size, rounded up
(`PageInfo.pageCount_eq_ceilDiv`). `PageInfo.Within` says that a page lies among the pages of so
many rows; it holds of the first page, and of every page that is cut out of a dataset. Which pages
those are is told by `Dataset.page_eq_ok_iff`. `Page.CutFrom` adds the rows: a page that was cut out
has those of its place.

All pages of a dataset, one after the other, are its rows (`Dataset.pages_of_pos_size`). The proof
takes them from the front: so many pages of so many rows each are the rows up to the product.
-/

namespace Tabula

namespace PageInfo

theorem pageCount_le_iff {rows size count : Nat} (hs : 0 < size) :
    pageCount rows size ≤ count ↔ rows ≤ size * count := by
  have hr := Nat.mod_lt rows hs
  have hd := Nat.div_add_mod rows size
  unfold pageCount
  split
  · next h =>
    rw [h, Nat.add_zero] at hd
    rw [Nat.add_zero, ← Nat.mul_le_mul_left_iff hs, hd]
  · next h =>
    constructor
    · intro hle
      calc
        rows ≤ size * (rows / size) + size := by omega
        _ = size * (rows / size + 1) := (Nat.mul_succ _ _).symm
        _ ≤ size * count := Nat.mul_le_mul_left size hle
    · intro hle
      -- with one page less, the rows of the last one would be left over
      refine Nat.succ_le_of_lt (Nat.lt_of_not_le fun hc => ?_)
      have hfull : size * count ≤ size * (rows / size) := Nat.mul_le_mul_left size hc
      omega

theorem lt_pageCount_iff {rows size count : Nat} (hs : 0 < size) :
    count < pageCount rows size ↔ size * count < rows := by
  rw [← Nat.not_le, pageCount_le_iff hs, Nat.not_le]

/-- The number of pages is a division that rounds up. -/
theorem pageCount_eq_ceilDiv {rows size : Nat} (hs : 0 < size) :
    pageCount rows size = rows ⌈/⌉ size :=
  eq_of_forall_ge_iff fun _ => (pageCount_le_iff hs).trans (ceilDiv_le_iff_le_mul hs).symm

theorem accept_eq_ok_iff {info : PageInfo} {index : Nat} :
    info.accept index = .ok () ↔ 1 ≤ index ∧ index ≤ info.lastIndex := by
  unfold accept
  split
  · next h =>
    simp only [reduceCtorEq, false_iff, not_and]
    omega
  · next h =>
    simp only [true_iff]
    omega

theorem accept_eq_error_iff {info : PageInfo} {index : Nat} {fault : DataFault} :
    info.accept index = .error fault ↔
      ¬ (1 ≤ index ∧ index ≤ info.lastIndex) ∧ fault = .noSuchPage index info.totalPages := by
  rw [← accept_eq_ok_iff]
  unfold accept
  split <;> simp [eq_comm (b := fault)]

theorem not_le_of_accept_eq_error {info : PageInfo} {index : Nat} {fault : DataFault}
    (h : info.accept index = .error fault) : ¬ (1 ≤ index ∧ index ≤ info.lastIndex) :=
  (accept_eq_error_iff.1 h).1

/-- The page is one of those that so many rows fill, or the first where there are none. -/
structure Within (info : PageInfo) (rows : Nat) : Prop where
  /-- All rows are counted. -/
  totalRows_eq : info.totalRows = rows
  /-- The number of pages follows from the number of rows. -/
  totalPages_eq : info.totalPages = pageCount rows info.size
  /-- Pages are counted from one. -/
  one_le_index : 1 ≤ info.index
  /-- The page is not behind the last. -/
  index_le : info.index ≤ info.lastIndex

theorem within_first (rows size : Nat) : (first rows size).Within rows :=
  ⟨rfl, rfl, Nat.le_refl 1, Nat.le_max_right _ _⟩

end PageInfo

/-- A page that lies in a dataset: it has the rows of its place there, and it is one of the pages of
the dataset, or page one where there are none. -/
structure Page.CutFrom (page : Page) (d : Dataset) : Prop where
  /-- The rows are those of the place. -/
  rows_eq : page.rows = d.pageRows page.info.index page.info.size
  /-- The place is one in the dataset. -/
  within : page.info.Within d.size

namespace Dataset

/-- A page is cut exactly if it holds rows at all and its number is one of those that may be asked
for. -/
theorem page_eq_ok_iff {d : Dataset} {index size : Nat} {page : Page} :
    d.page index size = .ok page ↔
      0 < size ∧ 1 ≤ index ∧ index ≤ (PageInfo.first d.size size).lastIndex ∧
        page =
          { rows := d.pageRows index size
            info := { PageInfo.first d.size size with index }
            origin := .memory } := by
  unfold Dataset.page
  by_cases hs : size = 0
  · simp [hs]
  · have hpos : 0 < size := Nat.pos_of_ne_zero hs
    rw [if_neg hs]
    cases ha : (PageInfo.first d.size size).accept index with
    | error fault =>
      have hno := PageInfo.not_le_of_accept_eq_error ha
      simp only [ha, bind, Except.bind, reduceCtorEq, false_iff]
      exact fun h => hno ⟨h.2.1, h.2.2.1⟩
    | ok _ =>
      obtain ⟨hone, hle⟩ := PageInfo.accept_eq_ok_iff.1 ha
      simp [ha, bind, Except.bind, pure, Except.pure, hpos, hone, hle, eq_comm (b := page)]

theorem within_of_page_eq_ok {d : Dataset} {index size : Nat} {page : Page}
    (h : d.page index size = .ok page) : page.info.Within d.size ∧ page.info.size = size := by
  obtain ⟨-, hone, hle, rfl⟩ := page_eq_ok_iff.1 h
  exact ⟨⟨rfl, rfl, hone, hle⟩, rfl⟩

theorem cutFrom_of_page_eq_ok {d : Dataset} {index size : Nat} {page : Page}
    (h : d.page index size = .ok page) : page.CutFrom d := by
  have hwithin := (within_of_page_eq_ok h).1
  obtain ⟨-, -, -, rfl⟩ := page_eq_ok_iff.1 h
  exact ⟨rfl, hwithin⟩

/-- The nearest page lies in the dataset, whatever was asked for. -/
theorem cutFrom_nearestPage (d : Dataset) (index size : Nat) :
    (d.nearestPage index size).CutFrom d where
  rows_eq := rfl
  within :=
    { totalRows_eq := rfl
      totalPages_eq := rfl
      one_le_index := Nat.le_min.2 ⟨Nat.le_max_right _ _, Nat.le_max_right _ _⟩
      index_le := Nat.min_le_right _ _ }

/-- A page holds the rows between two bounds, up to the end of the dataset. -/
theorem pageRows_eq_extract (d : Dataset) {index : Nat} (hone : 1 ≤ index) (size : Nat) :
    d.pageRows index size = d.rows.extract ((index - 1) * size) (index * size) := by
  obtain ⟨k, rfl⟩ := Nat.exists_eq_add_of_le' hone
  rw [pageRows, List.extract_eq_take_drop, Nat.add_sub_cancel, Nat.succ_mul, Nat.add_sub_cancel_left]

/-! ### All pages -/

variable {d : Dataset} {index size : Nat}

theorem length_pageRows (d : Dataset) (index size : Nat) :
    (d.pageRows index size).length = min size (d.size - (index - 1) * size) := by
  rw [pageRows, List.length_take, List.length_drop, Dataset.size]

/-- A page in front of the last is full. -/
theorem length_pageRows_of_lt (hs : 0 < size) (hone : 1 ≤ index)
    (h : index < PageInfo.pageCount d.size size) : (d.pageRows index size).length = size := by
  have hrows : size * index < d.size := (PageInfo.lt_pageCount_iff hs).1 h
  obtain ⟨k, rfl⟩ := Nat.exists_eq_add_of_le' hone
  rw [length_pageRows, Nat.add_sub_cancel, Nat.mul_comm k size]
  rw [Nat.mul_succ] at hrows
  omega

/-- The last page has rows, and no more than fit. -/
theorem length_pageRows_last (hs : 0 < size) (hone : 1 ≤ index)
    (h : index = PageInfo.pageCount d.size size) :
    1 ≤ (d.pageRows index size).length ∧ (d.pageRows index size).length ≤ size := by
  obtain ⟨k, rfl⟩ := Nat.exists_eq_add_of_le' hone
  -- with one page less, some rows are left over
  have hrows : size * k < d.size := (PageInfo.lt_pageCount_iff hs).1 (by omega)
  rw [length_pageRows, Nat.add_sub_cancel, Nat.mul_comm k size]
  omega

theorem size_le_pageCount_mul (hs : 0 < size) : d.size ≤ PageInfo.pageCount d.size size * size := by
  rw [Nat.mul_comm]
  exact (PageInfo.pageCount_le_iff hs).1 (Nat.le_refl _)

/-- The first pages, cut one after the other, hold the first rows. -/
theorem exists_pages_eq_take (hs : 0 < size) {count : Nat}
    (hcount : count ≤ PageInfo.pageCount d.size size) :
    ∃ pages, ((List.range' 1 count).mapM fun index => d.page index size) = .ok pages ∧
      pages.flatMap Page.rows = d.rows.take (count * size) := by
  -- on the number of pages, with the next page behind the ones before
  induction count with
  | zero => exact ⟨[], rfl, by simp⟩
  | succ count ih =>
    obtain ⟨pages, hpages, hrows⟩ := ih (Nat.le_of_succ_le hcount)
    have hle : 1 + count ≤ (PageInfo.first d.size size).lastIndex := by
      show 1 + count ≤ max (PageInfo.pageCount d.size size) 1
      omega
    obtain ⟨page, hpage, hnext⟩ : ∃ page, d.page (1 + count) size = .ok page ∧
        page.rows = d.pageRows (1 + count) size :=
      ⟨_, page_eq_ok_iff.2 ⟨hs, Nat.le_add_right 1 count, hle, rfl⟩, rfl⟩
    refine ⟨pages ++ [page], ?_, ?_⟩
    · rw [List.range'_1_concat, List.mapM_append, hpages, List.mapM_cons, hpage]
      rfl
    · rw [List.flatMap_append, hrows, List.flatMap_singleton, hnext, pageRows,
        Nat.add_sub_cancel_left, Nat.succ_mul, List.take_add]

/-- Where there are rows to a page, only a number out of range is refused. -/
theorem page_eq_error (hs : 0 < size)
    (h : ¬ (1 ≤ index ∧ index ≤ (PageInfo.first d.size size).lastIndex)) :
    d.page index size = .error (.noSuchPage index (PageInfo.pageCount d.size size)) := by
  unfold Dataset.page
  rw [if_neg hs.ne']
  dsimp only
  rw [PageInfo.accept_eq_error_iff.2 ⟨h, rfl⟩]
  rfl

/-- **All pages.** Let pages hold at least one row. There is a page of a number exactly if the number
is at least one and at most that of the last page, which is the number of rows divided by the page
size, rounded up, or one; any other number is refused as out of range. A page says where it lies.
All pages but the last are full, and the last is not empty. Put together they are the rows of the
dataset. Without rows, the only page is an empty page one. -/
theorem pages_of_pos_size (d : Dataset) {size : Nat} (hs : 1 ≤ size) :
    (∀ index, 1 ≤ index ∧ index ≤ max 1 (d.size ⌈/⌉ size) →
      ∃ page, d.page index size = .ok page ∧
        page.info = { index, size, totalRows := d.size, totalPages := d.size ⌈/⌉ size } ∧
        (index < d.size ⌈/⌉ size → page.rows.length = size) ∧
        (index = d.size ⌈/⌉ size → 1 ≤ page.rows.length ∧ page.rows.length ≤ size)) ∧
    (∀ index, ¬ (1 ≤ index ∧ index ≤ max 1 (d.size ⌈/⌉ size)) →
      d.page index size = .error (.noSuchPage index (d.size ⌈/⌉ size))) ∧
    (∃ pages, ((List.range' 1 (d.size ⌈/⌉ size)).mapM fun index => d.page index size) = .ok pages ∧
      pages.flatMap Page.rows = d.rows) ∧
    (d.rows = [] → ∀ index page, d.page index size = .ok page ↔
      index = 1 ∧
        page =
          { rows := []
            info := { index := 1, size, totalRows := 0, totalPages := 0 }
            origin := .memory }) := by
  rw [← PageInfo.pageCount_eq_ceilDiv hs, max_comm]
  refine ⟨?_, ?_, ?_, ?_⟩
  · rintro index ⟨hone, hle⟩
    exact ⟨_, page_eq_ok_iff.2 ⟨hs, hone, hle, rfl⟩, rfl, length_pageRows_of_lt hs hone,
      length_pageRows_last hs hone⟩
  · -- outside of that range
    exact fun index h => page_eq_error hs h
  · -- the pages up to the last one hold all rows
    obtain ⟨pages, hpages, hrows⟩ := exists_pages_eq_take (d := d) hs (Nat.le_refl _)
    exact ⟨pages, hpages, hrows.trans (List.take_of_length_le (size_le_pageCount_mul hs))⟩
  · intro hempty index page
    have hsize : d.size = 0 := by rw [Dataset.size, hempty, List.length_nil]
    have hcount : PageInfo.pageCount 0 size = 0 := by simp [PageInfo.pageCount]
    rw [page_eq_ok_iff, hsize]
    simp only [PageInfo.lastIndex, PageInfo.first, hcount, pageRows, hempty]
    constructor
    · rintro ⟨-, hone, hle, rfl⟩
      obtain rfl : index = 1 := Nat.le_antisymm hle hone
      simp
    · rintro ⟨rfl, rfl⟩
      exact ⟨hs, Nat.le_refl 1, Nat.le_max_right 0 1, by simp⟩

/-- A table of three names. -/
def threeNames : Dataset where
  columns := ["name"]
  rows :=
    [⟨[("name", .text "cara")], by simp⟩, ⟨[("name", .text "dan")], by simp⟩,
      ⟨[("name", .text "eve")], by simp⟩]

/-- Three names fill a page of two, and half of another. -/
theorem pages_threeNames :
    1 ≤ 2 ∧ threeNames.page 3 2 = .error (.noSuchPage 3 2) ∧
      (∃ page, threeNames.page 2 2 = .ok page ∧ 1 ≤ page.rows.length) ∧
      ∃ pages, ([1, 2].mapM fun index => threeNames.page index 2) = .ok pages ∧
        pages.flatMap Page.rows = threeNames.rows := by
  have hs : 1 ≤ 2 := by decide
  obtain ⟨hpage, hno, hall, -⟩ := pages_of_pos_size threeNames hs
  refine ⟨hs, hno 3 (by decide), ?_, hall⟩
  obtain ⟨page, hok, -, -, hlast⟩ := hpage 2 (by decide)
  exact ⟨page, hok, (hlast rfl).1⟩

end Dataset

end Tabula
