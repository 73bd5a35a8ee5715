import Tabula.Proofs.Page

/-!
# Pages in machine words

Here the numbers of a page are computed as a machine with words of 64 bits computes them. An
operation has no result where the machine has none: where a difference lies below zero, where no
word holds a sum or a product, where a divisor is zero, where a range is empty, and where the bounds
of a slice are out of order or behind the end. `window?`, `page?` and `nearestPage?` are
`Dataset.pageRows`, `Dataset.page` and `Dataset.nearestPage` with these operations.

The rows of a page have no result in general (`window?_eq_some_iff`), but they have one if the page
is one of the pages of a table with fewer than `2 ^ 63` rows and a word holds the page size
(`window?_eq`). The rows in front of the page are rows of the table, so where the page begins is no
problem (`pred_mul_le`). Where it ends is one, since the page may be cut off by the end of the table
long before. Page one ends at the page size, which a word holds. In front of a later page there is a
full one, so the page size is no greater than the number of rows, and the page ends before twice
that number (`mul_lt_two_pow`).
-/

namespace Tabula.Words

/-! ### Operations on words -/

/-- The sum, if a word holds it. -/
def add? (a b : Nat) : Option Nat :=
  if a + b < 2 ^ 64 then some (a + b) else none

/-- The difference, if it does not lie below zero. -/
def sub? (a b : Nat) : Option Nat :=
  if b ≤ a then some (a - b) else none

/-- The product, if a word holds it. -/
def mul? (a b : Nat) : Option Nat :=
  if a * b < 2 ^ 64 then some (a * b) else none

/-- The quotient rounded up, if there is something to divide by. -/
def ceilDiv? (a b : Nat) : Option Nat :=
  if b = 0 then none
  else if a % b = 0 then some (a / b)
  else add? (a / b) 1

/-- The number of a range that is nearest to a number, if there is any in the range. -/
def clamp? (n least greatest : Nat) : Option Nat :=
  if least ≤ greatest then some (min (max n least) greatest) else none

/-- The part of a list between two bounds, if they are in order and not behind its end. -/
def slice? {α : Type} (l : List α) (start stop : Nat) : Option (List α) :=
  if start ≤ stop ∧ stop ≤ l.length then some (l.extract start stop) else none

variable {a b c n least greatest start stop : Nat} {α : Type} {l part : List α}

theorem add?_eq_some_iff : add? a b = some c ↔ a + b < 2 ^ 64 ∧ a + b = c := by
  rw [add?, Option.ite_none_right_eq_some, Option.some.injEq]

theorem sub?_eq_some_iff : sub? a b = some c ↔ b ≤ a ∧ a - b = c := by
  rw [sub?, Option.ite_none_right_eq_some, Option.some.injEq]

theorem mul?_eq_some_iff : mul? a b = some c ↔ a * b < 2 ^ 64 ∧ a * b = c := by
  rw [mul?, Option.ite_none_right_eq_some, Option.some.injEq]

theorem slice?_eq_some_iff :
    slice? l start stop = some part ↔
      (start ≤ stop ∧ stop ≤ l.length) ∧ l.extract start stop = part := by
  rw [slice?, Option.ite_none_right_eq_some, Option.some.injEq]

theorem clamp?_eq (h : least ≤ greatest) :
    clamp? n least greatest = some (min (max n least) greatest) :=
  if_pos h

/-- Bounds behind the end of a list do not matter. -/
theorem extract_min_length (l : List α) (start stop : Nat) :
    l.extract (min start l.length) (min stop l.length) = l.extract start stop := by
  rw [List.extract_eq_take_drop, List.extract_eq_take_drop]
  rcases Nat.le_total start l.length with hstart | hstart
  · rw [Nat.min_eq_left hstart, List.take_eq_take_iff, List.length_drop]
    omega
  · rw [Nat.min_eq_right hstart, List.drop_length, List.drop_of_length_le hstart]
    simp

/-- Where there is something to divide by, a word holds the number of pages of any number of rows
that a word holds. -/
theorem ceilDiv?_eq {rows size : Nat} (hs : 0 < size) (hrows : rows < 2 ^ 64) :
    ceilDiv? rows size = some (PageInfo.pageCount rows size) := by
  have hcount : PageInfo.pageCount rows size ≤ rows :=
    (PageInfo.pageCount_le_iff hs).2 (Nat.le_mul_of_pos_left rows hs)
  rw [ceilDiv?, if_neg hs.ne']
  unfold PageInfo.pageCount at hcount ⊢
  split
  · next hexact => rw [Nat.add_zero]
  · next hmore =>
    rw [if_neg hmore] at hcount
    exact add?_eq_some_iff.2 ⟨Nat.lt_of_le_of_lt hcount hrows, rfl⟩

/-! ### Pages -/

/-- `PageInfo.first` in words. -/
def first? (totalRows size : Nat) : Option PageInfo := do
  let totalPages ← ceilDiv? totalRows size
  return { index := 1, size, totalRows, totalPages }

/-- `Dataset.pageRows` in words. -/
def window? (d : Dataset) (index size : Nat) : Option (List Row) := do
  let before ← sub? index 1
  let start ← mul? before size
  let stop ← mul? index size
  slice? d.rows (min start d.size) (min stop d.size)

/-- `Dataset.page` in words. -/
def page? (d : Dataset) (index size : Nat) : Option (Except DataFault Page) :=
  if size = 0 then some (.error .pageSizeZero)
  else do
    let info ← first? d.size size
    match info.accept index with
    | .error fault => return .error fault
    | .ok () =>
      let rows ← window? d index size
      return .ok { rows, info := { info with index }, origin := .memory }

/-- `Dataset.nearestPage` in words. -/
def nearestPage? (d : Dataset) (index size : Nat) : Option Page := do
  let info ← first? d.size size
  let index ← clamp? index 1 info.lastIndex
  let rows ← window? d index size
  return { rows, info := { info with index }, origin := .fallback }

variable {d : Dataset} {index size totalRows : Nat} {rows : List Row}

theorem first?_eq (hs : 0 < size) (hrows : totalRows < 2 ^ 64) :
    first? totalRows size = some (.first totalRows size) := by
  rw [first?, ceilDiv?_eq hs hrows]
  rfl

/-- The rows of a page have a result if pages are counted from one and words hold both bounds. -/
theorem window?_eq_some_iff :
    window? d index size = some rows ↔
      1 ≤ index ∧ (index - 1) * size < 2 ^ 64 ∧ index * size < 2 ^ 64 ∧
        d.pageRows index size = rows := by
  have hbounds : (index - 1) * size ≤ index * size :=
    Nat.mul_le_mul_right size (Nat.sub_le index 1)
  have hslice : min ((index - 1) * size) d.size ≤ min (index * size) d.size ∧
      min (index * size) d.size ≤ d.rows.length :=
    ⟨min_le_min_right d.size hbounds, Nat.min_le_right _ _⟩
  simp only [window?, Option.bind_eq_bind, Option.bind_eq_some_iff, sub?_eq_some_iff,
    mul?_eq_some_iff, slice?_eq_some_iff]
  constructor
  · rintro ⟨_, ⟨hone, rfl⟩, _, ⟨hstart, rfl⟩, _, ⟨hstop, rfl⟩, -, rfl⟩
    refine ⟨hone, hstart, hstop, ?_⟩
    rw [d.pageRows_eq_extract hone]
    exact (extract_min_length d.rows _ _).symm
  · rintro ⟨hone, hstart, hstop, rfl⟩
    refine ⟨_, ⟨hone, rfl⟩, _, ⟨hstart, rfl⟩, _, ⟨hstop, rfl⟩, hslice, ?_⟩
    rw [d.pageRows_eq_extract hone]
    exact extract_min_length d.rows _ _

/-- In front of a page of a table there are rows of the table. -/
theorem pred_mul_le (hs : 0 < size) (hle : index ≤ (PageInfo.first totalRows size).lastIndex) :
    (index - 1) * size ≤ totalRows := by
  replace hle : index ≤ max (PageInfo.pageCount totalRows size) 1 := hle
  by_cases hfirst : index ≤ 1
  · rw [Nat.sub_eq_zero_of_le hfirst, Nat.zero_mul]
    exact Nat.zero_le totalRows
  · have hbefore : index - 1 < PageInfo.pageCount totalRows size := by omega
    rw [Nat.mul_comm]
    exact ((PageInfo.lt_pageCount_iff hs).1 hbefore).le

/-- A page of a table ends where a word says. -/
theorem mul_lt_two_pow (hs : 0 < size) (hsize : size < 2 ^ 64) (hrows : totalRows < 2 ^ 63)
    (hle : index ≤ (PageInfo.first totalRows size).lastIndex) : index * size < 2 ^ 64 := by
  by_cases hfirst : index ≤ 1
  · calc
      index * size ≤ 1 * size := Nat.mul_le_mul_right size hfirst
      _ = size := Nat.one_mul size
      _ < 2 ^ 64 := hsize
  · -- there is a full page in front, so the page size is no greater than the number of rows
    have hbefore : (index - 1) * size ≤ totalRows := pred_mul_le hs hle
    have hfull : size ≤ (index - 1) * size := Nat.le_mul_of_pos_left size (by omega)
    calc
      index * size = (index - 1) * size + size := by
        rw [← Nat.succ_mul, Nat.succ_eq_add_one, Nat.sub_add_cancel (by omega)]
      _ ≤ totalRows + totalRows := Nat.add_le_add hbefore (Nat.le_trans hfull hbefore)
      _ < 2 ^ 64 := by omega

/-- The rows of a page of a table have a result. -/
theorem window?_eq (hs : 0 < size) (hsize : size < 2 ^ 64) (hrows : d.size < 2 ^ 63)
    (hone : 1 ≤ index) (hle : index ≤ (PageInfo.first d.size size).lastIndex) :
    window? d index size = some (d.pageRows index size) := by
  have hbefore : (index - 1) * size ≤ d.size := pred_mul_le hs hle
  exact window?_eq_some_iff.2 ⟨hone, by omega, mul_lt_two_pow hs hsize hrows hle, rfl⟩

/-- Whatever page is asked for, and whether it is refused or not, the answer has a result. -/
theorem page?_eq (hsize : size < 2 ^ 64) (hrows : d.size < 2 ^ 63) :
    page? d index size = some (d.page index size) := by
  by_cases hs : size = 0
  · rw [page?, Dataset.page, if_pos hs, if_pos hs]
  · have hpos : 0 < size := Nat.pos_of_ne_zero hs
    rw [page?, Dataset.page, if_neg hs, if_neg hs, first?_eq hpos (by omega)]
    cases haccept : (PageInfo.first d.size size).accept index with
    | error fault => simp [haccept, bind, Except.bind]
    | ok _ =>
      obtain ⟨hone, hle⟩ := PageInfo.accept_eq_ok_iff.1 haccept
      simp [haccept, bind, Except.bind, pure, Except.pure, window?_eq hpos hsize hrows hone hle]

/-- The page that is nearest to a number has a result, whatever the number. -/
theorem nearestPage?_eq (hs : 0 < size) (hsize : size < 2 ^ 64) (hrows : d.size < 2 ^ 63) :
    nearestPage? d index size = some (d.nearestPage index size) := by
  have hrange : 1 ≤ (PageInfo.first d.size size).lastIndex := Nat.le_max_right _ _
  have hone : 1 ≤ min (max index 1) (PageInfo.first d.size size).lastIndex :=
    Nat.le_min.2 ⟨Nat.le_max_right _ _, hrange⟩
  rw [nearestPage?, first?_eq hs (by omega)]
  simp only [Option.bind_eq_bind, Option.bind_some, clamp?_eq hrange,
    window?_eq hs hsize hrows hone (Nat.min_le_right _ _)]
  rfl

end Tabula.Words
