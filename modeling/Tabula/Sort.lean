import Tabula.Cell.Order
import Tabula.Column.Profile

/-!
# Sorting by a column

`Dataset.sorted` orders the rows of a dataset by the cells of one column, upwards or downwards. Rows
whose cells are equal keep their order, and rows with a blank cell come last in both directions.

Clicks on a column's header walk through three states: downwards, upwards, unsorted. A click on
another column starts over. Every sort starts from the dataset as it stands, so only the last state
matters.
-/

namespace Tabula

/-- The direction of a sort. -/
inductive Direction where
  /-- The greatest first. -/
  | descending
  /-- The least first. -/
  | ascending
deriving DecidableEq, Repr

namespace SortKey

/-- Whether a key may stand before another in a direction: blank keys last, the others in order. -/
def mayPrecede (direction : Direction) (k l : SortKey) : Bool :=
  match k.isBlank, l.isBlank with
  | true, true => true
  | true, false => false
  | false, true => true
  | false, false =>
    match direction with
    | .descending => (l.compare k).isLE
    | .ascending => (k.compare l).isLE

theorem mayPrecede_trans {direction : Direction} {k l m : SortKey}
    (hkl : mayPrecede direction k l = true) (hlm : mayPrecede direction l m = true) :
    mayPrecede direction k m = true := by
  revert hkl hlm
  simp only [mayPrecede]
  cases k.isBlank <;> cases l.isBlank <;> cases m.isBlank <;> cases direction <;> simp
  · exact fun hkl hlm => compare_trans hlm hkl
  · exact fun hkl hlm => compare_trans hkl hlm

end SortKey

namespace Dataset

/-- The rows of a dataset with the keys of one column. -/
def keyed (d : Dataset) (column : String) : List (SortKey × Row) :=
  d.rows.map fun row => (.ofCell (Row.cell row column), row)

/-- The dataset with its rows in the order of a column. -/
def sorted (d : Dataset) (column : String) (direction : Direction) : Dataset :=
  d.select <|
    ((d.keyed column).mergeSort fun a b => SortKey.mayPrecede direction a.1 b.1).map Prod.snd

/-- Sorting keeps the rows. -/
theorem rows_sorted_perm (d : Dataset) (column : String) (direction : Direction) :
    (d.sorted column direction).rows.Perm d.rows := by
  have h := (List.mergeSort_perm (d.keyed column)
    fun a b => SortKey.mayPrecede direction a.1 b.1).map Prod.snd
  simpa [sorted, keyed, Function.comp_def] using h

end Dataset

/-- Which column is sorted, and how. -/
inductive SortOrder where
  /-- The order of the dataset as it stands. -/
  | unsorted
  /-- The order of a column. -/
  | sorted (column : String) (direction : Direction)
deriving DecidableEq, Repr

namespace SortOrder

/-- The state after one more click on a column. -/
def click (state : SortOrder) (column : String) : SortOrder :=
  match state with
  | sorted c .descending => sorted column (if c = column then .ascending else .descending)
  | sorted c .ascending => if c = column then unsorted else sorted column .descending
  | unsorted => sorted column .descending

/-- The sorted column. -/
def column? : SortOrder → Option String
  | sorted column _ => some column
  | unsorted => none

/-- The number of clicks that led to the state, since the last time it was unsorted. -/
def clicks : SortOrder → Nat
  | unsorted => 0
  | sorted _ .descending => 1
  | sorted _ .ascending => 2

/-- Whether a column is sorted. -/
def isSet : SortOrder → Bool
  | unsorted => false
  | sorted .. => true

/-- The state after a click on a column, which the dataset must have and which must have an
order. -/
def click? (state : SortOrder) (d : Dataset) (profiles : Profiles) (column : String) :
    Except DataFault SortOrder :=
  if !d.isColumn column then .error (.unknownColumn column)
  else if !profiles.hasOrder column then .error (.columnWithoutOrder column)
  else .ok (state.click column)

end SortOrder

/-- The dataset in the order that a state says. -/
def Dataset.inOrderOf (d : Dataset) : SortOrder → Dataset
  | .unsorted => d
  | .sorted column direction => d.sorted column direction

end Tabula
