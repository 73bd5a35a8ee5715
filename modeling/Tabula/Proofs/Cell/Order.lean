import Tabula.Sort

/-!
# Sorting orders all cells

A sort asks of two cells which one comes first, and finds the answer anew for every two of them:
from the numbers, the dates or the texts that they read as, or from their kinds. The answers agree
with each other (`Cell.totalPreorder_compare`). Every cell has one key, and the comparison is that
of the keys, which is where its laws come from.

The blank cells have a key of their own. That takes a look at what reads numbers and dates, for a
cell that is blank and reads as a number would have the key of a number: no number and no date is
read from a text of blanks (`ofCell_eq_blank_iff`).

In a sort the blank cells come last in both directions. `Cell.arrange` says so of cells, without
keys, and a sort is the one by that order (`Dataset.sorted_eq`).
-/

namespace Tabula

/-! ### Blank cells -/

theorem Decimal.readFinite?_nil : readFinite? [] = none := rfl

theorem Calendar.recognize_nil : recognize [] = none := by decide +kernel

theorem Cell.number?_of_isBlank {c : Cell} (h : c.isBlank = true) : c.number? = none := by
  cases c with
  | text s => simp [number?, List.isEmpty_iff.1 h, Decimal.readFinite?_nil]
  | number x => exact absurd h (by simp [isBlank])
  | _ => rfl

theorem Cell.moment?_of_isBlank {c : Cell} (h : c.isBlank = true) : c.moment? = none := by
  cases c with
  | text s => simp [moment?, Calendar.moment?, List.isEmpty_iff.1 h, Calendar.recognize_nil]
  | _ => rfl

namespace SortKey

/-- No number and no date is read from a blank cell, so it has the key of blank cells. -/
theorem ofCell_eq_blank_iff {c : Cell} : ofCell c = .blank ↔ c.isBlank = true := by
  constructor
  · intro h
    unfold ofCell at h
    split at h
    · exact absurd h (by simp)
    · exact absurd h (by simp)
    · split at h
      · next hblank => exact hblank
      · exact absurd h (by simp)
  · intro h
    simp [ofCell, Cell.number?_of_isBlank h, Cell.moment?_of_isBlank h, h]

/-- A key is that of a blank cell exactly if the cell is blank. -/
theorem isBlank_ofCell (c : Cell) : (ofCell c).isBlank = c.isBlank := by
  have hkey (k : SortKey) : k.isBlank = true ↔ k = .blank := by cases k <;> simp [isBlank]
  rw [Bool.eq_iff_iff, hkey, ofCell_eq_blank_iff]

/-- Keys of blank cells stand behind all others. -/
theorem compare_blank {k : SortKey} (hk : k.isBlank = false) : compare k .blank = .lt := by
  cases k with
  | blank => exact absurd hk (by simp [isBlank])
  | _ => rfl

end SortKey

namespace Cell

variable {direction : Direction} {a b : Cell}

theorem compare_eq_of_isBlank (ha : a.isBlank = true) (hb : b.isBlank = true) :
    a.compare b = .eq := by
  rw [compare, SortKey.ofCell_eq_blank_iff.2 ha, SortKey.ofCell_eq_blank_iff.2 hb]
  rfl

theorem compare_lt_of_isBlank (ha : a.isBlank = false) (hb : b.isBlank = true) :
    a.compare b = .lt := by
  rw [compare, SortKey.ofCell_eq_blank_iff.2 hb]
  exact SortKey.compare_blank ((SortKey.isBlank_ofCell a).trans ha)

theorem compare_swap (a b : Cell) : a.compare b = (b.compare a).swap :=
  SortKey.compare_swap _ _

instance : Std.TransCmp Cell.compare where
  eq_swap := compare_swap _ _
  isLE_trans := SortKey.compare_trans

/-! ### The order of a sort -/

/-- How two cells are arranged by a sort: blank cells last in both directions, the others by
`compare`, with the sides changed if the greatest comes first. -/
def arrange (direction : Direction) (a b : Cell) : Ordering :=
  match a.isBlank, b.isBlank with
  | true, true => .eq
  | true, false => .gt
  | false, true => .lt
  | false, false =>
    match direction with
    | .descending => b.compare a
    | .ascending => a.compare b

/-- What may stand before what in a sort is told by the keys. -/
theorem mayPrecede_ofCell (direction : Direction) (a b : Cell) :
    SortKey.mayPrecede direction (.ofCell a) (.ofCell b) = (arrange direction a b).isLE := by
  simp only [SortKey.mayPrecede, arrange, SortKey.isBlank_ofCell]
  cases a.isBlank <;> cases b.isBlank <;> cases direction <;> rfl

theorem arrange_swap (direction : Direction) (a b : Cell) :
    arrange direction a b = (arrange direction b a).swap := by
  unfold arrange
  cases a.isBlank <;> cases b.isBlank <;> cases direction <;> try rfl
  -- neither of them is blank
  · exact compare_swap _ _
  · exact compare_swap _ _

instance : Std.TransCmp (arrange direction) where
  eq_swap := arrange_swap _ _ _
  isLE_trans hab hbc := by
    rw [← mayPrecede_ofCell] at hab hbc ⊢
    exact SortKey.mayPrecede_trans hab hbc

end Cell

/-- A sort arranges the rows by their cells. -/
theorem Dataset.sorted_eq (d : Dataset) (column : String) (direction : Direction) :
    d.sorted column direction =
      d.select (d.rows.mergeSort fun row row' =>
        (Cell.arrange direction (Row.cell row column) (Row.cell row' column)).isLE) := by
  -- the keys are put beside the rows, looked at, and taken away again
  have hkeyed := List.map_mergeSort
    (f := fun row : Row => (SortKey.ofCell (Row.cell row column), row))
    (r := fun row row' : Row =>
      (Cell.arrange direction (Row.cell row column) (Row.cell row' column)).isLE)
    (s := fun a b : SortKey × Row => SortKey.mayPrecede direction a.1 b.1) (l := d.rows)
    fun row _ row' _ => (Cell.mayPrecede_ofCell direction _ _).symm
  rw [sorted, keyed, ← hkeyed, List.map_map]
  simp [Function.comp_def]

/-- **The order of cells.** Of any two cells, one comes first or both are equal: every cell is equal
to itself, the answer for two cells is that for the other order turned round, and what comes before
a cell comes before all that this one comes before. The cells with the key of blank cells are those
without a value and those with a text of blanks; they are all equal, and all others come before
them. The same laws hold of the order by which a sort arranges the rows, upwards and downwards. -/
theorem Cell.totalPreorder_compare :
    (∀ a : Cell, a.compare a = .eq) ∧
    (∀ a b : Cell, a.compare b = (b.compare a).swap) ∧
    (∀ a b c : Cell,
      (a.compare b).isLE = true → (b.compare c).isLE = true → (a.compare c).isLE = true) ∧
    (∀ a : Cell, SortKey.ofCell a = .blank ↔ a.isBlank = true) ∧
    (∀ a b : Cell, a.isBlank = true → b.isBlank = true → a.compare b = .eq) ∧
    (∀ a b : Cell, a.isBlank = false → b.isBlank = true → a.compare b = .lt) ∧
    ∀ direction : Direction,
      Std.TransCmp (Cell.arrange direction) ∧
        ∀ (d : Dataset) (column : String),
          d.sorted column direction =
            d.select (d.rows.mergeSort fun row row' =>
              (Cell.arrange direction (Row.cell row column) (Row.cell row' column)).isLE) := by
  refine ⟨?_, ?_, ?_, ?_, ?_, ?_, ?_⟩
  · intro a
    exact Std.ReflCmp.compare_self
  · intro a b
    exact Std.OrientedCmp.eq_swap
  · intro a b c hab hbc
    exact Std.TransCmp.isLE_trans hab hbc
  · intro a
    exact SortKey.ofCell_eq_blank_iff
  · intro a b ha hb
    exact Cell.compare_eq_of_isBlank ha hb
  · intro a b ha hb
    exact Cell.compare_lt_of_isBlank ha hb
  · intro direction
    exact ⟨inferInstance, fun d column => d.sorted_eq column direction⟩

/-- A number comes before a date, a date before what is no number, and that before a blank text. -/
example : (Cell.text " 10 ").compare (.text "2024-01-05") = .lt ∧
    (Cell.text "2024-01-05").compare (.number (0.0 / 0.0)) = .lt ∧
    (Cell.number (0.0 / 0.0)).compare (.text " ") = .lt := by
  decide +kernel

end Tabula
